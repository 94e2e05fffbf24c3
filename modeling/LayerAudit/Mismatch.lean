import LayerAudit.Text.Quoted

/-!
# Values of the wrong shape

What is wrong with a value that was read from a document but does not have the shape asked for.
-/

namespace LayerAudit

/-- What stands where something else is expected. -/
inductive Found where
  | nothing
  | boolean (value : Bool)
  | integer (value : Int)
  /-- A number with a fraction or of great size, as it is written. -/
  | number (written : String)
  | text (value : String)
  /-- A point in time. -/
  | moment
  | sequence
  | map
  deriving DecidableEq, Repr

/-- A phrase for what was found. -/
def Found.phrase : Found → String
  | .nothing => "null"
  | .boolean value => "boolean `" ++ (if value then "true" else "false") ++ "`"
  | .integer value => "integer `" ++ toString value ++ "`"
  | .number written => "floating point `" ++ written ++ "`"
  | .text value => "string " ++ Text.quoted value
  | .moment => "map"
  | .sequence => "sequence"
  | .map => "map"

/-- How a value differs from the shape asked for. -/
inductive Mismatch where
  | missingField (name : String)
  | unknownVariant (name : String) (known : List String)
  | wrongType (found : Found) (expected : String)
  | wrongValue (found : Found) (expected : String)
  | wrongLength (length : Nat) (expected : String)
  deriving DecidableEq, Repr

namespace Mismatch

/-- A choice between names. -/
def choice (names : List String) : String :=
  match names.map fun name => "`" ++ name ++ "`" with
  | [] => "nothing"
  | [a] => a
  | [a, b] => a ++ " or " ++ b
  | many => "one of " ++ String.intercalate ", " many

/-- The wording of a mismatch. -/
def message : Mismatch → String
  | .missingField name => "missing field `" ++ name ++ "`"
  | .unknownVariant name known => "unknown variant `" ++ name ++ "`, expected " ++ choice known
  | .wrongType found expected => "invalid type: " ++ found.phrase ++ ", expected " ++ expected
  | .wrongValue found expected => "invalid value: " ++ found.phrase ++ ", expected " ++ expected
  | .wrongLength length expected =>
    "invalid length " ++ toString length ++ ", expected " ++ expected

end Mismatch

end LayerAudit
