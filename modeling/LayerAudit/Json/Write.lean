import LayerAudit.Json.Basic

/-!
# Writing JSON

Two ways of writing a value: compact, without any blank, and pretty, with a line for each item and
each field, indented by two spaces a level. In both, text is escaped only where the format asks for
it.
-/

namespace LayerAudit.Json

/-- A digit of a hexadecimal number. -/
def hexDigit (n : Nat) : Char := Nat.digitChar n

/-- The way in which one character is written between quotes. -/
def escapeChar (c : Char) : List Char :=
  match c with
  | '"' => ['\\', '"']
  | '\\' => ['\\', '\\']
  | '\x08' => ['\\', 'b']
  | '\x0c' => ['\\', 'f']
  | '\n' => ['\\', 'n']
  | '\r' => ['\\', 'r']
  | '\t' => ['\\', 't']
  | _ =>
    if c.toNat < 0x20 then
      ['\\', 'u', '0', '0', hexDigit (c.toNat / 16), hexDigit (c.toNat % 16)]
    else [c]

/-- A text between quotes. -/
def writeText (s : String) : List Char := '"' :: s.toList.flatMap escapeChar ++ ['"']

/-- A value without items and fields. -/
def writeScalar : Json → List Char
  | .null => "null".toList
  | .bool true => "true".toList
  | .bool false => "false".toList
  | .integer value => (toString value).toList
  | .number value => value.shortText.toList
  | .string value => writeText value
  | .array _ => "[]".toList
  | .object _ => ['\x7b', '\x7d']

mutual

/-- The compact form of a value. -/
def compactChars : Json → List Char
  | .array items => '[' :: compactItems items ++ [']']
  | .object fields => '\x7b' :: compactFields fields ++ ['\x7d']
  | value => writeScalar value

/-- The compact form of items, with commas between them. -/
def compactItems : List Json → List Char
  | [] => []
  | [item] => item.compactChars
  | item :: rest => item.compactChars ++ ',' :: compactItems rest

/-- The compact form of fields, with commas between them. -/
def compactFields : List (String × Json) → List Char
  | [] => []
  | [(name, value)] => writeText name ++ ':' :: value.compactChars
  | (name, value) :: rest =>
    writeText name ++ ':' :: value.compactChars ++ ',' :: compactFields rest

end

/-- The compact form of a value. -/
def compact (value : Json) : String := String.ofList value.compactChars

/-- A line break with the indentation of a level. -/
def newline (level : Nat) : List Char := '\n' :: List.replicate (2 * level) ' '

mutual

/-- The pretty form of a value that starts on a line of the given level. -/
def prettyChars (level : Nat) : Json → List Char
  | .array [] => writeScalar (.array [])
  | .array items => '[' :: prettyItems (level + 1) items ++ newline level ++ [']']
  | .object [] => writeScalar (.object [])
  | .object fields => '\x7b' :: prettyFields (level + 1) fields ++ newline level ++ ['\x7d']
  | value => writeScalar value

/-- The pretty form of items, each on a line of the given level. -/
def prettyItems (level : Nat) : List Json → List Char
  | [] => []
  | [item] => newline level ++ item.prettyChars level
  | item :: rest => newline level ++ item.prettyChars level ++ ',' :: prettyItems level rest

/-- The pretty form of fields, each on a line of the given level. -/
def prettyFields (level : Nat) : List (String × Json) → List Char
  | [] => []
  | [(name, value)] => newline level ++ writeText name ++ ": ".toList ++ value.prettyChars level
  | (name, value) :: rest =>
    newline level ++ writeText name ++ ": ".toList ++ value.prettyChars level ++
      ',' :: prettyFields level rest

end

/-- The pretty form of a value. -/
def pretty (value : Json) : String := String.ofList (value.prettyChars 0)

end LayerAudit.Json
