import LayerAudit.Number.Binary

/-!
# JSON values

A JSON document as a value. The fields of an object are kept in order; numbers are whole where they
are written without fraction and exponent and fit 64 bits.
-/

namespace LayerAudit

/-- A JSON value. -/
inductive Json where
  | null
  | bool (value : Bool)
  | integer (value : Int)
  | number (value : Double)
  | string (value : String)
  | array (items : List Json)
  | object (fields : List (String × Json))
  deriving Repr, Inhabited

namespace Json

/-- The greatest whole number that is read as one. -/
def greatestInteger : Nat := 0xffffffffffffffff

/-- The size of the least whole number that is read as one. -/
def leastInteger : Nat := 0x8000000000000000

/-- Puts a field into fields that are sorted by name, in the place of one of its name. -/
def insertField (name : String) (value : Json) : List (String × Json) → List (String × Json)
  | [] => [(name, value)]
  | (other, kept) :: rest =>
    if name = other then (name, value) :: rest
    else if name < other then (name, value) :: (other, kept) :: rest
    else (other, kept) :: insertField name value rest

mutual

/-- The value with the fields of each object sorted by name, of which the last of a name is kept. -/
def sorted : Json → Json
  | .array items => .array (sortedItems items)
  | .object fields => .object (sortedFields fields [])
  | value => value

/-- The items with sorted fields. -/
def sortedItems : List Json → List Json
  | [] => []
  | item :: rest => item.sorted :: sortedItems rest

/-- Adds fields, themselves sorted, to sorted fields. -/
def sortedFields : List (String × Json) → List (String × Json) → List (String × Json)
  | [], done => done
  | (name, value) :: rest, done => sortedFields rest (insertField name value.sorted done)

end

/-- The value of a field. -/
def get? (name : String) : Json → Option Json
  | .object fields => fields.lookup name
  | _ => none

end Json

end LayerAudit
