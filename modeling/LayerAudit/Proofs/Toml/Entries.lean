import LayerAudit.Proofs.Toml.Keys

/-!
# What a document says at a path

A path leads down through tables by the names of their fields. What a document says at a path is the value
there without its places in the text, so that two documents can be said to agree on it.

That two values are the same can be decided, though values lie in lists of values, so closed statements
about documents can be evaluated.
-/

namespace LayerAudit.Toml

/-- A stretch of text that stands for none. -/
def nowhere : Span := ⟨0, 0⟩

mutual

/-- A value without its places in a text, nor how its tables came to be. -/
def unplaced : Toml → Toml
  | string _ value => string nowhere value
  | integer _ value => integer nowhere value
  | float _ value => float nowhere value
  | boolean _ value => boolean nowhere value
  | moment _ value => moment nowhere value
  | array _ kind items => array nowhere kind (unplacedItems items)
  | table _ _ fields => table none .stated (unplacedFields fields)

/-- Items without their places in a text. -/
def unplacedItems : List Toml → List Toml
  | [] => []
  | item :: rest => item.unplaced :: unplacedItems rest

/-- Fields without their places in a text. -/
def unplacedFields : List (Key × Toml) → List (Key × Toml)
  | [] => []
  | (key, value) :: rest => (⟨key.name, nowhere⟩, value.unplaced) :: unplacedFields rest

end

/-- The fields of a table. -/
def fields : Toml → List (Key × Toml)
  | table _ _ fields => fields
  | _ => []

/-- The value of a field of a table. -/
def field? (name : String) : Toml → Option Toml
  | table _ _ fields => lookup name fields
  | _ => none

/-- The value at a path that leads down through tables. -/
def valueAt? : List String → Toml → Option Toml
  | [], value => some value
  | name :: path, value => (value.field? name).bind (valueAt? path)

/-- What a document says at a path, wherever in the text it says so. -/
def said (document : Toml) (path : List String) : Option Toml := (valueAt? path document).map unplaced

/-- Items lose their places one by one. -/
theorem unplacedItems_eq_map (items : List Toml) : unplacedItems items = items.map unplaced := by
  induction items with
  | nil => rfl
  | cons item rest ih => rw [unplacedItems, ih, List.map_cons]

/-- A path leads on from where its first part leads. -/
theorem valueAt?_append (path more : List String) (value : Toml) :
    value.valueAt? (path ++ more) = (value.valueAt? path).bind (valueAt? more) := by
  induction path generalizing value with
  | nil => rfl
  | cons name path ih => rw [List.cons_append, valueAt?, valueAt?, Option.bind_assoc, funext ih]

/-- A path of one name leads to a field. -/
theorem valueAt?_singleton (name : String) (value : Toml) : value.valueAt? [name] = value.field? name :=
  Option.bind_fun_some _

/-- A path of two names leads to a field of a field. -/
theorem valueAt?_pair (name more : String) (value : Toml) :
    value.valueAt? [name, more] = (value.field? name).bind (field? more) := by
  rw [valueAt?, funext (valueAt?_singleton more)]

/-- What is found under a name is the value of a field. -/
theorem exists_mem_fields_of_field?_eq_some {name : String} {value entry : Toml}
    (h : value.field? name = some entry) : ∃ f ∈ value.fields, f.2 = entry := by
  cases value with
  | table span kind fields =>
    obtain ⟨f, hf, -, hentry⟩ := exists_mem_of_lookup h
    exact ⟨f, hf, hentry⟩
  | string | integer | float | boolean | moment | array => exact nomatch h

/-- Fields are found alike in a value without its places. -/
theorem field?_unplaced (name : String) (value : Toml) :
    value.unplaced.field? name = (value.field? name).map unplaced := by
  cases value with
  | table span kind fields =>
    simp only [unplaced, field?]
    induction fields with
    | nil => rfl
    | cons f rest ih =>
      rw [unplacedFields, lookup, lookup, ih]
      split <;> rfl
  | string | integer | float | boolean | moment | array => rfl

/-- A path leads to the same in a value without its places. -/
theorem valueAt?_unplaced (path : List String) (value : Toml) :
    value.unplaced.valueAt? path = (value.valueAt? path).map unplaced := by
  induction path generalizing value with
  | nil => rfl
  | cons name path ih =>
    rw [valueAt?, valueAt?, field?_unplaced, Option.bind_map, Option.map_bind]
    exact congrArg _ (funext ih)

/-- What is said below a path is found in what is said at it. -/
theorem said_append (document : Toml) (path more : List String) :
    document.said (path ++ more) = (document.said path).bind (valueAt? more) := by
  rw [said, said, ← valueAt?_unplaced, ← valueAt?_unplaced, valueAt?_append]

/-- What lies below a value states each key once if the value does. -/
theorem keysDiffer_of_valueAt?_eq_some {path : List String} {value entry : Toml}
    (h : value.keysDiffer = true) (hentry : value.valueAt? path = some entry) : entry.keysDiffer = true := by
  induction path generalizing value with
  | nil => exact Option.some.inj hentry ▸ h
  | cons name path ih =>
    obtain ⟨below, hbelow, hentry⟩ := Option.bind_eq_some_iff.mp hentry
    refine ih ?_ hentry
    cases value with
    | table span kind fields => exact (keysDiffer_table_iff.mp h).of_lookup hbelow
    | string | integer | float | boolean | moment | array => exact nomatch hbelow

mutual

/-- Whether two values are the same. -/
def same : Toml → Toml → Bool
  | string span value, string span' value' => span = span' && value = value'
  | integer span value, integer span' value' => span = span' && value = value'
  | float span value, float span' value' => span = span' && value = value'
  | boolean span value, boolean span' value' => span = span' && value = value'
  | moment span value, moment span' value' => span = span' && value = value'
  | array span kind items, array span' kind' items' =>
    span = span' && kind = kind' && sameItems items items'
  | table span kind fields, table span' kind' fields' =>
    span = span' && kind = kind' && sameFields fields fields'
  | _, _ => false

/-- Whether items are the same. -/
def sameItems : List Toml → List Toml → Bool
  | [], [] => true
  | item :: rest, item' :: rest' => item.same item' && sameItems rest rest'
  | _, _ => false

/-- Whether fields are the same. -/
def sameFields : List (Key × Toml) → List (Key × Toml) → Bool
  | [], [] => true
  | (key, value) :: rest, (key', value') :: rest' =>
    key = key' && value.same value' && sameFields rest rest'
  | _, _ => false

end

mutual

/-- Values are found to be the same exactly if they are. -/
theorem same_iff : ∀ a b : Toml, a.same b = true ↔ a = b
  | string .., b | integer .., b | float .., b | boolean .., b | moment .., b => by cases b <;> simp [same]
  | array _ _ items, b => by cases b <;> simp [same, sameItems_iff items, and_assoc]
  | table _ _ fields, b => by cases b <;> simp [same, sameFields_iff fields, and_assoc]

/-- Items are found to be the same exactly if they are. -/
theorem sameItems_iff : ∀ items others : List Toml, sameItems items others = true ↔ items = others
  | [], others => by cases others <;> simp [sameItems]
  | item :: rest, others => by cases others <;> simp [sameItems, same_iff item, sameItems_iff rest]

/-- Fields are found to be the same exactly if they are. -/
theorem sameFields_iff :
    ∀ fields others : List (Key × Toml), sameFields fields others = true ↔ fields = others
  | [], others => by cases others <;> simp [sameFields]
  | (key, value) :: rest, others => by
    cases others <;> simp [sameFields, same_iff value, sameFields_iff rest, Prod.ext_iff]

end

instance : DecidableEq Toml := fun a b => decidable_of_iff _ (same_iff a b)

end LayerAudit.Toml
