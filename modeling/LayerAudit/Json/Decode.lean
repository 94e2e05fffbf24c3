import LayerAudit.Json.Basic
import LayerAudit.Mismatch

/-!
# Typed values from JSON

Reading values of known shape out of JSON values. Records are read from objects, whose fields are
judged in their order before missing ones are, or from arrays that list the fields in order.
-/

namespace LayerAudit.Json

/-- The value read, or what is wrong with its shape. -/
abbrev Decoded (α : Type) := Except Mismatch α

/-- What a value is, for a reader who expected something else. -/
def found : Json → Found
  | .null => .nothing
  | .bool value => .boolean value
  | .integer value => .integer value
  | .number value => .number value.shortText
  | .string value => .text value
  | .array _ => .sequence
  | .object _ => .map

/-- Reads a text. -/
def decodeText : Json → Decoded String
  | .string value => .ok value
  | value => .error (.wrongType value.found "a string")

/-- Reads a count. -/
def decodeCount : Json → Decoded Nat
  | .integer value =>
    if value < 0 then .error (.wrongValue (.integer value) "usize") else .ok value.toNat
  | value => .error (.wrongType value.found "usize")

/-- Reads a value that may be absent. -/
def decodeOptional {α : Type} (decode : Json → Decoded α) : Json → Decoded (Option α)
  | .null => .ok none
  | value => (decode value).map some

/-- Reads a list. -/
def decodeList {α : Type} (decode : Json → Decoded α) : Json → Decoded (List α)
  | .array items => items.mapM decode
  | value => .error (.wrongType value.found "a sequence")

/-- Reads one of some named values. -/
def decodeNamed {α : Type} (all : List α) (name : α → String) (written : String) : Decoded α :=
  match all.find? fun a => name a = written with
  | some a => .ok a
  | none => .error (.unknownVariant written (all.map name))

/-- Reads a choice: the name of one of some values, alone or as the one field of an object, whose
value is then null. -/
def decodeChoice {α : Type} (all : List α) (name : α → String) : Json → Decoded α
  | .string written => decodeNamed all name written
  | .object [(written, value)] => do
    let a ← decodeNamed all name written
    match value with
    | .null => .ok a
    | other => .error (.wrongType other.found "unit")
  | .object _ => .error (.wrongValue .map "map with a single key")
  | value => .error (.wrongType value.found "string or map")

/-- A reader of the fields of a record: from an object by name, or from an array by place. -/
structure Fields where
  /-- The field of a name, at a place. -/
  field? : String → Nat → Option Json
  /-- What is wrong if the field of a name, at a place, is missing. -/
  missing : String → Nat → Mismatch

/-- Reads a field. -/
def Fields.required {α : Type} (fields : Fields) (name : String) (place : Nat)
    (decode : Json → Decoded α) : Decoded α :=
  match fields.field? name place with
  | some value => decode value
  | none => .error (fields.missing name place)

/-- Judges a value without keeping it. -/
def judge {α : Type} (decode : Json → Decoded α) (value : Json) : Decoded Unit :=
  (decode value).map fun _ => ()

/-- Reads a record of a given kind and number of fields. The judge says what is wrong with a field
of an object, by name. -/
def decodeRecord {α : Type} (kind : String) (count : Nat)
    (judgeField : String → Json → Decoded Unit) (read : Fields → Decoded α) :
    Json → Decoded α
  | .object fields => do
    fields.forM fun (name, value) => judgeField name value
    read ⟨fun name _ => fields.lookup name, fun name _ => .missingField name⟩
  | .array items => do
    let expected := "struct " ++ kind ++ " with " ++ toString count ++ " elements"
    let value ← read ⟨fun _ place => items[place]?, fun _ place => .wrongLength place expected⟩
    if count < items.length then .error (.wrongLength items.length "fewer elements in array")
    else return value
  | value => .error (.wrongType value.found ("struct " ++ kind))

end LayerAudit.Json
