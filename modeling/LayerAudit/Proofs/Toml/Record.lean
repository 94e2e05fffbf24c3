import LayerAudit.Proofs.Toml.Decoding
import LayerAudit.Toml.Record

/-!
# What a record read from a document holds

A record is read by going through the fields of a table and filling one slot after the other. Where each key
is stated once this comes to the same as looking up the key of each slot, and taking what the slot holds by
itself where its key is not stated. So a table that is left out reads as one in which no key is stated,
provided that what stands for it is the record of what the slots hold by themselves.
-/

namespace LayerAudit.Toml.Record

variable {α : Type} {r : Record α} {fields : List (Key × Toml)} {a b : α} {name : String} {value : Toml}

/-- A slot among some that are filled with what they hold by themselves holds that. -/
theorem get_foldr_put {slots : List (Slot α)} (hslots : slots ⊆ r.slots)
    (hnames : (slots.map Slot.name).Nodup) {s : Slot α} (hs : s ∈ slots) :
    s.get (slots.foldr (fun t a => t.put a t.unset) a) = s.unset := by
  induction slots with
  | nil => exact absurd hs List.not_mem_nil
  | cons first rest ih =>
    obtain ⟨hfirst, hrest⟩ := List.cons_subset.mp hslots
    obtain ⟨hnew, hnames⟩ := List.nodup_cons.mp hnames
    rw [List.foldr_cons]
    rcases List.mem_cons.mp hs with rfl | hs
    · exact s.get_put ..
    · have hne : first.name ≠ s.name := fun h => hnew (h ▸ List.mem_map_of_mem hs)
      rw [r.get_put_of_ne first hfirst s (hrest hs) hne, ih hrest hnames hs]

/-- Where no key is stated, a slot holds what it holds by itself. -/
theorem get_unset [Inhabited α] {s : Slot α} (hs : s ∈ r.slots) : s.get r.unset = s.unset :=
  get_foldr_put (List.Subset.refl _) r.nodup hs

/-- The name of a slot fills that slot. -/
theorem set_of_mem {s : Slot α} (hs : s ∈ r.slots) (a : α) (value : Toml) :
    r.set a s.name value = s.put a <$> s.decode value := by
  unfold set
  split
  next t hfind =>
    have hname : t.name = s.name := by simpa using List.find?_some hfind
    obtain rfl := List.inj_on_of_nodup_map r.nodup (List.mem_of_find?_eq_some hfind) hs hname
    rfl
  next hfind => simpa using List.find?_eq_none.mp hfind s hs

/-- A name that no slot has fills nothing. -/
theorem set_of_forall_ne (h : ∀ s ∈ r.slots, s.name ≠ name) (a : α) (value : Toml) :
    r.set a name value = .ok a := by
  have hfind : (r.slots.find? fun s => s.name = name) = none :=
    List.find?_eq_none.mpr fun s hs => by simpa using h s hs
  rw [set, hfind]

/-- A name is that of a slot or of none. -/
theorem exists_slot_or_forall_ne (r : Record α) (name : String) :
    (∃ s ∈ r.slots, s.name = name) ∨ ∀ s ∈ r.slots, s.name ≠ name := by
  simpa using Classical.em (∃ s ∈ r.slots, s.name = name)

/-- A slot holds what its name sets, and what it held if another name is set. -/
theorem get_of_set (hset : r.set a name value = .ok b) {s : Slot α} (hs : s ∈ r.slots) :
    if s.name = name then s.decode value = .ok (s.get b) else s.get b = s.get a := by
  rcases r.exists_slot_or_forall_ne name with ⟨t, ht, rfl⟩ | hnone
  · rw [set_of_mem ht] at hset
    obtain ⟨x, hx, rfl⟩ := map_eq_ok_iff.mp hset
    split
    next heq =>
      obtain rfl := List.inj_on_of_nodup_map r.nodup hs ht heq
      rw [hx, s.get_put]
    next hne => exact r.get_put_of_ne t ht s hs (Ne.symm hne) a x
  · rw [set_of_forall_ne hnone] at hset
    rw [if_neg (hnone s hs), Except.ok.inj hset]

/-- A value is set if the slot of its name can be filled with it. -/
theorem exists_set_eq_ok (h : ∀ s ∈ r.slots, s.name = name → ∃ x, s.decode value = .ok x) (a : α) :
    ∃ b, r.set a name value = .ok b := by
  rcases r.exists_slot_or_forall_ne name with ⟨s, hs, rfl⟩ | hnone
  · obtain ⟨x, hx⟩ := h s hs rfl
    exact ⟨s.put a x, (set_of_mem hs a value).trans (map_eq_ok_iff.mpr ⟨x, hx, rfl⟩)⟩
  · exact ⟨a, set_of_forall_ne hnone a value⟩

/-- Setting a field of a new key leaves to the others what they set. -/
theorem settingOf_cons {s : Slot α} {next : α} {f : Key × Toml}
    (hset : if s.name = f.1.name then s.decode f.2 = .ok (s.get next) else s.get next = s.get a)
    (hnew : f.1.name ∉ names fields) :
    settingOf s.decode (s.get a) (lookup s.name (f :: fields)) =
      settingOf s.decode (s.get next) (lookup s.name fields) := by
  rw [lookup]
  split at hset
  next hname =>
    rw [if_pos hname.symm, lookup_eq_none_iff.mpr (hname ▸ hnew)]
    exact settingOf_eq_some_iff.mpr hset
  next hname => rw [if_neg (Ne.symm hname), hset]

/-- Where each key is stated once, the fields of a table fill the slots of their keys. -/
theorem foldlM_eq_ok_iff (hnames : (names fields).Nodup) :
    fields.foldlM (fun a field => decodeField (r.set a field.1.name) field) a = .ok b ↔
      ∀ s ∈ r.slots, settingOf s.decode (s.get a) (lookup s.name fields) = some (s.get b) := by
  induction fields generalizing a with
  | nil =>
    constructor
    · intro hab s _
      rw [← Except.ok.inj hab]
      rfl
    · exact fun hget => congrArg Except.ok (r.ext a b fun s hs => Option.some.inj (hget s hs))
  | cons f rest ih =>
    obtain ⟨hnew, hrest⟩ := List.nodup_cons.mp hnames
    have hcons {next : α} (hset : r.set a f.1.name f.2 = .ok next) (s : Slot α) (hs : s ∈ r.slots) :=
      settingOf_cons (get_of_set hset hs) hnew
    rw [List.foldlM_cons, bind_eq_ok_iff]
    constructor
    · rintro ⟨next, hset, hfold⟩ s hs
      rw [hcons (mapError_eq_ok_iff.mp hset) s hs]
      exact (ih hrest).mp hfold s hs
    · intro hget
      -- The first field can be set because its slot has a value in the end, and no later field changes it.
      obtain ⟨next, hset⟩ : ∃ next, r.set a f.1.name f.2 = .ok next := by
        refine exists_set_eq_ok (fun s hs hname => ?_) a
        have hfound := hget s hs
        rw [lookup, if_pos hname.symm] at hfound
        exact ⟨s.get b, settingOf_eq_some_iff.mp hfound⟩
      refine ⟨next, mapError_eq_ok_iff.mpr hset, (ih hrest).mpr fun s hs => ?_⟩
      rw [← hcons hset s hs]
      exact hget s hs

/-- A slot is set alike wherever its value is written if it is read alike. -/
theorem isPlaceBlind_set (h : ∀ s ∈ r.slots, IsPlaceBlind s.decode) (a : α) (name : String) :
    IsPlaceBlind (r.set a name) := by
  intro value
  rcases r.exists_slot_or_forall_ne name with ⟨s, hs, rfl⟩ | hnone
  · rw [set_of_mem hs, set_of_mem hs, toOption_map, toOption_map, h s hs value]
  · rw [set_of_forall_ne hnone, set_of_forall_ne hnone]

variable [Inhabited α]

/-- A record that is left out, or read from a table, has in each slot what the key of the slot sets. -/
theorem settingOf_decode_iff {entry : Option Toml} (hentry : ∀ value ∈ entry, value.IsDocument) :
    settingOf r.decode r.unset entry = some a ↔
      ∀ s ∈ r.slots, settingOf s.decode s.unset (entry.bind (field? s.name)) = some (s.get a) := by
  cases entry with
  | none =>
    constructor
    · intro ha s hs
      rw [← Option.some.inj ha, get_unset hs]
      rfl
    · intro hget
      exact congrArg some (r.ext _ a fun s hs => (get_unset hs).trans (Option.some.inj (hget s hs)))
  | some value =>
    have hvalue := hentry value rfl
    cases value with
    | table span kind fields =>
      rw [settingOf_eq_some_iff, decode, Decoded.within, mapError_eq_ok_iff,
        foldlM_eq_ok_iff (isDocument_table_iff.mp hvalue).1]
      exact forall₂_congr fun s hs => by rw [get_unset hs]; rfl
    | string | integer | float | boolean | moment | array =>
      exact absurd hvalue.isTable Bool.false_ne_true

/-- A record is read alike wherever it is written if its slots are. -/
theorem isPlaceBlind_decode (h : ∀ s ∈ r.slots, IsPlaceBlind s.decode) : IsPlaceBlind r.decode := by
  have hset := isPlaceBlind_set h
  intro value
  cases value with
  | table span kind fields =>
    simp only [decode, unplaced, toOption_within]
    generalize r.unset = a
    induction fields generalizing a with
    | nil => rfl
    | cons f rest ih =>
      simp only [unplacedFields, List.foldlM_cons, toOption_bind, decodeField, toOption_within,
        hset _ _ f.2]
      exact congrArg _ (funext ih)
  | array span kind items =>
    simp only [decode, unplaced, toOption_within, unplacedItems_eq_map]
    generalize r.unset = a
    generalize r.slots.map Slot.name = keys
    induction items generalizing keys a with
    | nil => rw [List.map_nil]
    | cons item rest ih =>
      cases keys with
      | nil => rfl
      | cons key keys =>
        simp only [List.map_cons, List.zip_cons_cons, List.foldlM_cons, toOption_bind, hset _ _ item]
        exact congrArg _ (funext fun a => ih a keys)
  | string | integer | float | boolean | moment => rfl

end LayerAudit.Toml.Record
