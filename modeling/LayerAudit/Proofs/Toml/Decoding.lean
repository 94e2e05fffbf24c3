import LayerAudit.Proofs.Except
import LayerAudit.Proofs.Toml.Entries
import LayerAudit.Toml.Decode

/-!
# What is read from a document

What is read out of a value does not depend on the places in the text that wrote it. Where keys are free, what
is read is looked up by the keys that are stated.
-/

namespace LayerAudit.Toml

variable {α β : Type}

/-- What is set by a value that may be left out. -/
def settingOf (decode : Toml → Decoded α) (unset : α) : Option Toml → Option α
  | none => some unset
  | some value => (decode value).toOption

/-- Whether reading does not depend on where a value is written, except for what is said of faults. -/
def IsPlaceBlind (decode : Toml → Decoded α) : Prop :=
  ∀ value, (decode value.unplaced).toOption = (decode value).toOption

section Places

variable {decode : Toml → Decoded α}

/-- To say where a fault lies does not change what is read. -/
theorem toOption_within (span : Option Span) (d : Decoded α) : (d.within span).toOption = d.toOption := by
  cases d <;> rfl

/-- A value that is stated sets what is read from it. -/
theorem settingOf_eq_some_iff {unset a : α} {value : Toml} :
    settingOf decode unset (some value) = some a ↔ decode value = .ok a := toOption_eq_some_iff

/-- What is set does not depend on where it is written. -/
theorem settingOf_unplaced (h : IsPlaceBlind decode) (unset : α) (entry : Option Toml) :
    settingOf decode unset (entry.map unplaced) = settingOf decode unset entry := by
  cases entry with
  | none => rfl
  | some value => exact h value

/-- Texts are read alike wherever they are written. -/
theorem isPlaceBlind_decodeText (expected : String) : IsPlaceBlind (decodeText expected) := by
  intro value
  cases value <;> rfl

/-- A truth value is read from that value alone. -/
theorem decodeBool_eq_ok_iff {value : Toml} {b : Bool} :
    decodeBool value = .ok b ↔ value.unplaced = .boolean nowhere b := by
  cases value <;> simp [decodeBool, Decoded.within, mapError_eq_ok_iff, unexpected, misfit, unplaced]

/-- Truth values are read alike wherever they are written. -/
theorem isPlaceBlind_decodeBool : IsPlaceBlind decodeBool := by
  intro value
  cases value <;> rfl

/-- Whether a choice has nothing to say does not depend on where it is written. -/
theorem isPlaceBlind_decodeNothing : IsPlaceBlind decodeNothing := by
  intro value
  cases value with
  | array span kind items => cases kind <;> cases items <;> rfl
  | table span kind fields => cases fields <;> rfl
  | string | integer | float | boolean | moment => rfl

/-- What is made of a value that is read alike everywhere is alike everywhere. -/
theorem IsPlaceBlind.map (h : IsPlaceBlind decode) (f : α → β) :
    IsPlaceBlind fun value => f <$> decode value := by
  intro value
  rw [toOption_map, toOption_map, h value]

/-- A list is read alike wherever it is written if its items are. -/
theorem IsPlaceBlind.decodeList (h : IsPlaceBlind decode) : IsPlaceBlind (decodeList decode) := by
  intro value
  cases value with
  | array span kind items =>
    simp only [Toml.decodeList, unplaced, toOption_within, unplacedItems_eq_map]
    induction items with
    | nil => rfl
    | cons item rest ih =>
      simp only [List.map_cons, List.mapM_cons, toOption_bind, h item, ih]
  | string | integer | float | boolean | moment | table => rfl

/-- Choices are read alike wherever they are written. -/
theorem isPlaceBlind_decodeChoice (all : List α) (name : α → String) :
    IsPlaceBlind (decodeChoice all name) := by
  intro value
  match value with
  | table span kind [] => rfl
  | table span kind [(key, inner)] =>
    simp only [decodeChoice, unplaced, unplacedFields, toOption_within, toOption_bind,
      isPlaceBlind_decodeNothing inner]
  | table span kind (_ :: _ :: _) => rfl
  | string .. => simp only [decodeChoice, unplaced, toOption_within]
  | integer .. | float .. | boolean .. | moment .. | array .. => rfl

end Places

section FreeKeys

variable {decode : Toml → Decoded α} {fields : List (Key × Toml)}

/-- Where keys are free, what is read is looked up like the fields it is read from. -/
theorem lookup_of_mapM_eq_ok {items : List (String × α)}
    (h : fields.mapM (fun field => do return (field.1.name, ← decodeField decode field)) = .ok items) :
    items.map Prod.fst = names fields ∧
      ∀ name, settingOf (some <$> decode ·) none (lookup name fields) = some (items.lookup name) := by
  induction fields generalizing items with
  | nil =>
    rw [← Except.ok.inj h]
    exact ⟨rfl, fun _ => rfl⟩
  | cons f rest ih =>
    rw [List.mapM_cons] at h
    obtain ⟨first, hfirst, h⟩ := bind_eq_ok_iff.mp h
    obtain ⟨a, ha, hpair⟩ := bind_eq_ok_iff.mp hfirst
    obtain ⟨more, hmore, h⟩ := bind_eq_ok_iff.mp h
    obtain rfl := Except.ok.inj hpair
    obtain rfl := Except.ok.inj h
    obtain ⟨hnames, hlookup⟩ := ih hmore
    refine ⟨congrArg (f.1.name :: ·) hnames, fun name => ?_⟩
    rw [lookup, List.lookup_cons]
    by_cases hname : f.1.name = name
    · have hset : (some <$> decode f.2).toOption = some (some a) := by
        rw [toOption_map, toOption_eq_some_iff.mpr (mapError_eq_ok_iff.mp ha)]
        rfl
      rw [if_pos hname, beq_iff_eq.mpr hname.symm]
      exact hset
    · rw [if_neg hname, beq_eq_false_iff_ne.mpr (Ne.symm hname)]
      exact hlookup name

/-- If all fields are read, so is the table. -/
theorem exists_mapM_eq_ok (h : ∀ f ∈ fields, ∃ a, decode f.2 = .ok a) :
    ∃ items, fields.mapM (fun field => do return (field.1.name, ← decodeField decode field)) =
      .ok items := by
  induction fields with
  | nil => exact ⟨[], rfl⟩
  | cons f rest ih =>
    obtain ⟨⟨a, ha⟩, hrest⟩ := List.forall_mem_cons.mp h
    obtain ⟨items, hitems⟩ := ih hrest
    refine ⟨(f.1.name, a) :: items, ?_⟩
    rw [List.mapM_cons, hitems, decodeField, Decoded.within, mapError_eq_ok_iff.mpr ha]
    rfl

end FreeKeys

end LayerAudit.Toml
