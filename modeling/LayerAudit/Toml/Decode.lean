import LayerAudit.Mismatch
import LayerAudit.Toml.Excerpt

/-!
# Typed values from TOML

Reading values of known shape out of TOML values. What is wrong with a value is said together with
the innermost stretch of text that it is known to come from.
-/

namespace LayerAudit.Toml

/-- Why a value does not have the shape asked for. -/
inductive Misfit where
  | shape (mismatch : Mismatch)
  /-- A table without fields where its one field names a choice. -/
  | choiceMissing
  /-- A table with several fields where its one field names a choice. -/
  | choiceRepeated
  /-- A value that is neither a name nor a table, where a choice is named. -/
  | choiceUnnamed (found : String)
  /-- A chosen name with items. -/
  | itemsGiven
  /-- A chosen name with fields. -/
  | fieldsGiven
  /-- A chosen name with a value of its own. -/
  | valueGiven (found : String)
  deriving DecidableEq, Repr

/-- The wording of a misfit. -/
def Misfit.message : Misfit → String
  | .shape mismatch => mismatch.message
  | .choiceMissing => "wanted exactly 1 element, found 0 elements"
  | .choiceRepeated => "wanted exactly 1 element, more than 1 element"
  | .choiceUnnamed found => "wanted string or table, found " ++ found
  | .itemsGiven => "expected empty array"
  | .fieldsGiven => "expected empty table"
  | .valueGiven found => "expected table, found " ++ found

/-- What is wrong with a document, and where. -/
structure Fault where
  span : Option Span
  misfit : Misfit
  deriving DecidableEq, Repr

/-- The wording of a fault in a text. -/
def Fault.message (text : String) (f : Fault) : String :=
  let excerpt :=
    match f.span with
    | some span => (Excerpt.ofSpan text span).render
    | none => ""
  excerpt ++ f.misfit.message ++ "\n"

/-- The value read, or what is wrong. -/
abbrev Decoded (α : Type) := Except Fault α

/-- Fails for a reason whose place is not known yet. -/
def misfit {α : Type} (m : Misfit) : Decoded α := .error ⟨none, m⟩

/-- Gives a fault without a place one. -/
def Decoded.within {α : Type} (span : Option Span) (d : Decoded α) : Decoded α :=
  d.mapError fun f => { f with span := f.span <|> span }

/-- What a value is, for a reader who expected something else. -/
def found : Toml → Found
  | string _ value => .text value
  | integer _ value => .integer value
  | float _ value => .number value.text
  | boolean _ value => .boolean value
  | moment .. => .moment
  | array .. => .sequence
  | table .. => .map

/-- Fails because a value is something else than expected. -/
def unexpected {α : Type} (value : Toml) (expected : String) : Decoded α :=
  misfit (.shape (.wrongType value.found expected))

/-- Reads a text. -/
def decodeText (expected : String) (value : Toml) : Decoded String :=
  Decoded.within value.span? <|
    match value with
    | string _ s => .ok s
    | other => other.unexpected expected

/-- Reads a truth value. -/
def decodeBool (value : Toml) : Decoded Bool :=
  Decoded.within value.span? <|
    match value with
    | boolean _ b => .ok b
    | other => other.unexpected "a boolean"

/-- Reads a list. -/
def decodeList {α : Type} (decode : Toml → Decoded α) (value : Toml) : Decoded (List α) :=
  Decoded.within value.span? <|
    match value with
    | array _ _ items => items.mapM decode
    | other => other.unexpected "a sequence"

/-- Reads one of some named values. -/
def decodeNamed {α : Type} (all : List α) (name : α → String) (written : String) : Decoded α :=
  match all.find? fun a => name a = written with
  | some a => .ok a
  | none => misfit (.shape (.unknownVariant written (all.map name)))

/-- Judges the value of a chosen name, which has nothing to say. -/
def decodeNothing (value : Toml) : Decoded Unit :=
  Decoded.within value.span? <|
    match value with
    | array _ .written [] => .ok ()
    | array _ .written _ => misfit .itemsGiven
    | table _ _ [] => .ok ()
    | table .. => misfit .fieldsGiven
    | other => misfit (.valueGiven other.typeName)

/-- Reads a choice: the name of one of some values, alone or as the one field of a table. -/
def decodeChoice {α : Type} (all : List α) (name : α → String) (value : Toml) : Decoded α :=
  Decoded.within value.span? <|
    match value with
    | string _ written => decodeNamed all name written
    | table _ _ [] => misfit .choiceMissing
    | table _ _ [(key, inner)] => do
      let a ← (decodeNamed all name key.name).within (some key.span)
      decodeNothing inner
      return a
    | table .. => misfit .choiceRepeated
    | other => misfit (.choiceUnnamed other.typeName)

/-- Reads the value of a key. -/
def decodeField {α : Type} (decode : Toml → Decoded α) (field : Key × Toml) : Decoded α :=
  (decode field.2).within (field.2.span? <|> some field.1.span)

/-- Reads a table whose keys are free. A date is taken for a table with the date under one key. -/
def decodeMap {α : Type} (decode : Toml → Decoded α) (value : Toml) :
    Decoded (List (String × α)) :=
  Decoded.within value.span? <|
    match value with
    | table _ _ fields => fields.mapM fun field => do
      return (field.1.name, ← decodeField decode field)
    | moment span date => do
      let a ← decode (string span date)
      return [("", a)]
    | other => other.unexpected "a map"

end LayerAudit.Toml
