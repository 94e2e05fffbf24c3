import LayerAudit.Toml.Decode

/-!
# Records from TOML

A record is described by its slots, each with a key, a way to read the value of the key, and what the slot
holds where the key is not stated.
-/

namespace LayerAudit.Toml

/-- A slot of a record. -/
structure Slot (α : Type) where
  /-- Its key. -/
  name : String
  {Value : Type}
  decode : Toml → Decoded Value
  /-- What it holds where its key is not stated. -/
  unset : Value
  get : α → Value
  put : α → Value → α
  get_put : ∀ a x, get (put a x) = x := by intros; rfl

/-- A kind of record: slots with different names that are filled independently of each other and make up
the record. -/
structure Record (α : Type) where
  kind : String
  /-- In the order in which an array fills them. -/
  slots : List (Slot α)
  nodup : (slots.map Slot.name).Nodup := by decide
  get_put_of_ne : ∀ s ∈ slots, ∀ t ∈ slots, s.name ≠ t.name → ∀ a x, t.get (s.put a x) = t.get a := by
    simp
  ext : ∀ a b, (∀ s ∈ slots, s.get a = s.get b) → a = b := by
    rintro ⟨⟩ ⟨⟩ h
    simpa using h

namespace Record

variable {α : Type}

/-- A record in which no key is stated. -/
def unset [Inhabited α] (r : Record α) : α := r.slots.foldr (fun s a => s.put a s.unset) default

/-- Fills the slot of a name, if there is one. -/
def set (r : Record α) (a : α) (name : String) (value : Toml) : Decoded α :=
  match r.slots.find? fun s => s.name = name with
  | some s => s.put a <$> s.decode value
  | none => .ok a

/-- Reads a record. A table sets its fields by name, and an array sets them in their order. A date is
taken for a table that sets nothing. -/
def decode [Inhabited α] (r : Record α) (value : Toml) : Decoded α :=
  Decoded.within value.span? <|
    match value with
    | table _ _ fields =>
      fields.foldlM (fun a field => decodeField (r.set a field.1.name) field) r.unset
    | array _ _ items =>
      ((r.slots.map Slot.name).zip items).foldlM (fun a item => r.set a item.1 item.2) r.unset
    | moment .. => .ok r.unset
    | other => other.unexpected ("struct " ++ r.kind)

end Record

end LayerAudit.Toml
