import LayerAudit.Toml.Document
import Mathlib.Data.List.Nodup

/-!
# Each key is stated once

Main statement: in a document that a text writes, no table states a key twice, however deep it lies and
whether headers, dotted keys or braces make it. So a key stands for one value, and the order in which keys
are written does not matter to those who look them up.

Tables come to be in few ways: a field is put behind others that do not have its key, or takes the place of
the one that has it, or is taken out. What is said of these ways is carried through the paths of headers and
dotted keys, and then through the reader.
-/

namespace LayerAudit.Toml

/-- The names of fields. -/
def names (fields : List (Key × Toml)) : List String := fields.map (·.1.name)

/-- Whether a value is a table. -/
def isTable : Toml → Bool
  | table .. => true
  | _ => false

mutual

/-- Whether every table of a value states each key once. -/
def keysDiffer : Toml → Bool
  | array _ _ items => itemKeysDiffer items
  | table _ _ fields => decide (names fields).Nodup && fieldKeysDiffer fields
  | _ => true

/-- Whether every table of some items states each key once. -/
def itemKeysDiffer : List Toml → Bool
  | [] => true
  | item :: rest => item.keysDiffer && itemKeysDiffer rest

/-- Whether every table of the values of some fields states each key once. -/
def fieldKeysDiffer : List (Key × Toml) → Bool
  | [] => true
  | (_, value) :: rest => value.keysDiffer && fieldKeysDiffer rest

end

/-- Whether fields have different names and every table of their values states each key once. -/
def FieldsDiffer (fields : List (Key × Toml)) : Prop :=
  (names fields).Nodup ∧ ∀ f ∈ fields, f.2.keysDiffer = true

variable {fields : List (Key × Toml)} {name : String} {key : Key} {value : Toml}

/-- An array states each key once if its items do. -/
theorem keysDiffer_array_iff {span : Span} {kind : ArrayKind} {items : List Toml} :
    (array span kind items).keysDiffer = true ↔ ∀ item ∈ items, item.keysDiffer = true := by
  rw [keysDiffer]
  induction items with
  | nil => simp [itemKeysDiffer]
  | cons item rest ih => simp only [itemKeysDiffer, Bool.and_eq_true, ih, List.forall_mem_cons]

/-- Fields state each key once below them if their values do. -/
theorem fieldKeysDiffer_iff :
    fieldKeysDiffer fields = true ↔ ∀ f ∈ fields, f.2.keysDiffer = true := by
  induction fields with
  | nil => simp [fieldKeysDiffer]
  | cons f rest ih => simp only [fieldKeysDiffer, Bool.and_eq_true, ih, List.forall_mem_cons]

/-- A table states each key once if its fields do. -/
theorem keysDiffer_table_iff {span : Option Span} {kind : TableKind} :
    (table span kind fields).keysDiffer = true ↔ FieldsDiffer fields := by
  rw [keysDiffer, Bool.and_eq_true, decide_eq_true_eq, fieldKeysDiffer_iff, FieldsDiffer]

/-- A name that is not found is none of the names. -/
theorem lookup_eq_none_iff : lookup name fields = none ↔ name ∉ names fields := by
  induction fields with
  | nil => simp [lookup, names]
  | cons f rest ih =>
    rw [lookup, names, List.map_cons, List.mem_cons, not_or, eq_comm (a := name)]
    split
    next h => simp [h]
    next h => simp only [h, not_false_eq_true, true_and, ih, names]

/-- What is found under a name is the value of a field of that name. -/
theorem exists_mem_of_lookup (h : lookup name fields = some value) :
    ∃ f ∈ fields, f.1.name = name ∧ f.2 = value := by
  induction fields with
  | nil => exact nomatch h
  | cons f rest ih =>
    rw [lookup] at h
    split at h
    next heq => exact ⟨f, List.mem_cons_self, heq, Option.some.inj h⟩
    next =>
      obtain ⟨g, hg, hname, hvalue⟩ := ih h
      exact ⟨g, List.mem_cons_of_mem _ hg, hname, hvalue⟩

/-- Among fields with different names, each is found under its name. -/
theorem lookup_of_mem {f : Key × Toml} (hnames : (names fields).Nodup) (hf : f ∈ fields) :
    lookup f.1.name fields = some f.2 := by
  induction fields with
  | nil => exact nomatch hf
  | cons g rest ih =>
    obtain ⟨hg, hrest⟩ := List.nodup_cons.mp hnames
    rw [lookup]
    rcases List.mem_cons.mp hf with rfl | hf
    · exact if_pos rfl
    · have hne : g.1.name ≠ f.1.name := fun heq => hg (List.mem_map.mpr ⟨f, hf, heq.symm⟩)
      rw [if_neg hne, ih hrest hf]

namespace FieldsDiffer

/-- No fields state no key twice. -/
theorem nil : FieldsDiffer [] := ⟨List.nodup_nil, nofun⟩

/-- What is found in a table states each key once if the table does. -/
theorem of_lookup (h : FieldsDiffer fields) (hfound : lookup name fields = some value) :
    value.keysDiffer = true := by
  obtain ⟨f, hf, -, rfl⟩ := exists_mem_of_lookup hfound
  exact h.2 f hf

/-- A field with a new key is put behind the others. -/
theorem append (h : FieldsDiffer fields) (hnew : lookup key.name fields = none)
    (hvalue : value.keysDiffer = true) : FieldsDiffer (fields ++ [(key, value)]) := by
  constructor
  · have hconcat := List.Nodup.concat (lookup_eq_none_iff.mp hnew) h.1
    rw [names, List.map_append]
    rwa [List.concat_eq_append] at hconcat
  · rw [List.forall_mem_append, List.forall_mem_singleton]
    exact ⟨h.2, hvalue⟩

/-- A value is put in the place of another one. -/
theorem replace (h : FieldsDiffer fields) (hvalue : value.keysDiffer = true) :
    FieldsDiffer (replaceField name value fields) := by
  have hnames : names (replaceField name value fields) = names fields := by
    clear h
    induction fields with
    | nil => rfl
    | cons f rest ih =>
      rw [replaceField]
      split
      · rfl
      · exact congrArg (f.1.name :: ·) ih
  have hmem : ∀ f ∈ replaceField name value fields, f ∈ fields ∨ f.2 = value := by
    clear h hnames
    induction fields with
    | nil => exact nofun
    | cons g rest ih =>
      intro f hf
      rw [replaceField] at hf
      split at hf
      · rcases List.mem_cons.mp hf with rfl | hf
        · exact Or.inr rfl
        · exact Or.inl (List.mem_cons_of_mem _ hf)
      · rcases List.mem_cons.mp hf with rfl | hf
        · exact Or.inl List.mem_cons_self
        · exact (ih f hf).imp_left (List.mem_cons_of_mem _)
  refine ⟨hnames ▸ h.1, fun f hf => ?_⟩
  rcases hmem f hf with hold | hnew
  · exact h.2 f hold
  · rw [hnew]
    exact hvalue

/-- Some fields are taken out. -/
theorem filter (h : FieldsDiffer fields) (keep : Key × Toml → Bool) :
    FieldsDiffer (fields.filter keep) :=
  ⟨h.1.sublist (List.filter_sublist.map _), fun f hf => h.2 f (List.mem_of_mem_filter hf)⟩

end FieldsDiffer

/-- A table such that it and every table in it states each key once. -/
structure IsDocument (t : Toml) : Prop where
  isTable : t.isTable = true
  keysDiffer : t.keysDiffer = true

/-- A table is a document if its fields state each key once. -/
theorem isDocument_table_iff {span : Option Span} {kind : TableKind} :
    (table span kind fields).IsDocument ↔ FieldsDiffer fields :=
  ⟨fun h => keysDiffer_table_iff.mp h.keysDiffer, fun h => ⟨rfl, keysDiffer_table_iff.mpr h⟩⟩

/-- Whether a change leaves a table that states each key once, if the value did before. -/
def Keeps (change : Toml → Option Toml) : Prop :=
  ∀ t changed, t.keysDiffer = true → change t = some changed → changed.IsDocument

variable {way : Placement} {change : Toml → Option Toml}

/-- A change of the last item leaves the others alone. -/
theorem exists_of_mem_modifyLast {items changed : List Toml} {item : Toml}
    (h : modifyLast change items = some changed) (hitem : item ∈ changed) :
    item ∈ items ∨ ∃ last ∈ items, change last = some item := by
  induction items generalizing changed with
  | nil => exact nomatch h
  | cons first rest ih =>
    cases rest with
    | nil =>
      obtain ⟨made, hmade, rfl⟩ := Option.map_eq_some_iff.mp h
      rw [List.mem_singleton.mp hitem]
      exact Or.inr ⟨first, List.mem_cons_self, hmade⟩
    | cons second rest =>
      obtain ⟨more, hmore, rfl⟩ := Option.map_eq_some_iff.mp h
      rcases List.mem_cons.mp hitem with rfl | hitem
      · exact Or.inl List.mem_cons_self
      · rcases ih hmore hitem with hold | ⟨last, hlast, hmade⟩
        · exact Or.inl (List.mem_cons_of_mem _ hold)
        · exact Or.inr ⟨last, List.mem_cons_of_mem _ hlast, hmade⟩

/-- A change below a path keeps what it keeps at its place. -/
theorem Keeps.modifyAt (h : Keeps change) (way : Placement) (path : List Key) :
    Keeps (modifyAt way change path) := by
  induction path with
  | nil => exact h
  | cons key path ih =>
    intro t changed ht hchanged
    cases t with
    | table span kind fields =>
      rw [keysDiffer_table_iff] at ht
      rw [Toml.modifyAt] at hchanged
      split at hchanged
      next hnone =>
        obtain ⟨made, hmade, hchanged⟩ := Option.bind_eq_some_iff.mp hchanged
        rw [← Option.some.inj hchanged, isDocument_table_iff]
        exact ht.append hnone (ih _ _ (keysDiffer_table_iff.mpr .nil) hmade).keysDiffer
      next hfound =>
        obtain ⟨items, hitems, hchanged⟩ := Option.bind_eq_some_iff.mp hchanged
        rw [← Option.some.inj hchanged, isDocument_table_iff]
        refine ht.replace (keysDiffer_array_iff.mpr fun item hitem => ?_)
        have hold := keysDiffer_array_iff.mp (ht.of_lookup hfound)
        rcases exists_of_mem_modifyLast hitems hitem with hsame | ⟨last, hlast, hmade⟩
        · exact hold item hsame
        · exact (ih _ _ (hold last hlast) hmade).keysDiffer
      next hfound =>
        split at hchanged
        · obtain ⟨below, hbelow, hchanged⟩ := Option.bind_eq_some_iff.mp hchanged
          rw [← Option.some.inj hchanged, isDocument_table_iff]
          exact ht.replace (ih _ _ (ht.of_lookup hfound) hbelow).keysDiffer
        · exact nomatch hchanged
      next => exact nomatch hchanged
    | string | integer | float | boolean | moment | array => exact nomatch hchanged

/-- To add a field keeps each key stated once, as its key has to be free. -/
theorem keeps_addField (throughDots : Bool) (key : Key) (hvalue : value.keysDiffer = true) :
    Keeps (addField throughDots key value) := by
  intro t changed ht hchanged
  cases t with
  | table span kind fields =>
    rw [keysDiffer_table_iff] at ht
    simp only [addField] at hchanged
    split at hchanged
    next hnew =>
      rw [Bool.and_eq_true, Option.isNone_iff_eq_none] at hnew
      rw [← Option.some.inj hchanged, isDocument_table_iff]
      exact ht.append hnew.2 hvalue
    next => exact nomatch hchanged
  | string | integer | float | boolean | moment | array => exact nomatch hchanged

/-- To add a value at a path keeps each key stated once. -/
theorem keeps_addAt (way : Placement) (path : List Key) (hvalue : value.keysDiffer = true) :
    Keeps (addAt way path value) := by
  intro t changed ht hchanged
  obtain ⟨⟨before, key⟩, -, hchanged⟩ := Option.bind_eq_some_iff.mp hchanged
  exact (keeps_addField _ key hvalue).modifyAt way before t changed ht hchanged

/-- Pairs between braces are added one after the other. -/
theorem keysDiffer_of_foldlM_addAt {pairs : List (List Key × Toml)} {start t : Toml}
    (hpairs : ∀ p ∈ pairs, p.2.keysDiffer = true) (hstart : start.keysDiffer = true)
    (h : pairs.foldlM (fun t pair => addAt way pair.1 pair.2 t) start = some t) :
    t.keysDiffer = true := by
  induction pairs generalizing start with
  | nil => exact Option.some.inj h ▸ hstart
  | cons pair rest ih =>
    obtain ⟨hpair, hrest⟩ := List.forall_mem_cons.mp hpairs
    obtain ⟨next, hnext, h⟩ := Option.bind_eq_some_iff.mp h
    exact ih hrest (keeps_addAt _ _ hpair _ _ hstart hnext).keysDiffer h

/-- To take in more of the text adds no key. -/
theorem keysDiffer_extendTo {t : Toml} (ht : t.keysDiffer = true) :
    (extendTo value t).keysDiffer = true := by
  unfold extendTo
  split
  · rw [keysDiffer_table_iff] at ht
    split <;> exact keysDiffer_table_iff.mpr ht
  · exact ht

/-- To add a line keeps each key stated once. -/
theorem keeps_addLine (path : List Key) (hvalue : value.keysDiffer = true) :
    Keeps (addLine path value) := fun _ _ ht hchanged =>
  keeps_addAt _ _ hvalue _ _ (keysDiffer_extendTo ht) hchanged

/-- A header states a new table, or takes up one that was implied. -/
theorem keeps_stateTable (span : Span) (key : Key) : Keeps (stateTable span key) := by
  intro t changed ht hchanged
  cases t with
  | table s kind fields =>
    rw [keysDiffer_table_iff] at ht
    simp only [stateTable] at hchanged
    split at hchanged
    next hnew =>
      rw [← Option.some.inj hchanged, isDocument_table_iff]
      exact ht.append hnew (keysDiffer_table_iff.mpr .nil)
    next hfound =>
      rw [← Option.some.inj hchanged, isDocument_table_iff]
      refine (ht.filter _).append ?_ (keysDiffer_table_iff.mpr (keysDiffer_table_iff.mp (ht.of_lookup hfound)))
      rw [lookup_eq_none_iff, names, List.mem_map]
      rintro ⟨f, hf, hname⟩
      exact absurd hname (bne_iff_ne.mp (List.mem_filter.mp hf).2)
    next => exact nomatch hchanged
  | string | integer | float | boolean | moment | array => exact nomatch hchanged

/-- A header states one more table of an array. -/
theorem keeps_stateItem (span : Span) (key : Key) : Keeps (stateItem span key) := by
  intro t changed ht hchanged
  have hitem : (table (some span) .stated []).keysDiffer = true := keysDiffer_table_iff.mpr .nil
  cases t with
  | table s kind fields =>
    rw [keysDiffer_table_iff] at ht
    simp only [stateItem] at hchanged
    split at hchanged
    next hnew =>
      rw [← Option.some.inj hchanged, isDocument_table_iff]
      exact ht.append hnew (keysDiffer_array_iff.mpr (List.forall_mem_singleton.mpr hitem))
    next hfound =>
      rw [← Option.some.inj hchanged, isDocument_table_iff]
      refine ht.replace (keysDiffer_array_iff.mpr (List.forall_mem_append.mpr ⟨?_, ?_⟩))
      · exact keysDiffer_array_iff.mp (ht.of_lookup hfound)
      · exact List.forall_mem_singleton.mpr hitem
    next => exact nomatch hchanged
  | string | integer | float | boolean | moment | array => exact nomatch hchanged

/-- Whether all that a reader gives has a property. -/
def Yields {α : Type} (r : Reader α) (p : α → Prop) : Prop := ∀ i a rest, r i = some (a, rest) → p a

namespace Yields

variable {α β : Type} {r : Reader α} {p : α → Prop} {q : β → Prop} {f : α → Reader β}

/-- What is given without reading is what is given. -/
theorem pure {a : α} (h : p a) : Yields (pure a) p := by
  intro i b rest hread
  obtain ⟨rfl, -⟩ := Prod.mk.inj (Option.some.inj hread)
  exact h

/-- A reader that fails gives nothing that could be wrong. -/
theorem fail : Yields (Reader.fail : Reader α) p := nofun

/-- What is read behind something that has a property. -/
theorem bind (hr : Yields r p) (h : ∀ a, p a → Yields (f a) q) : Yields (r >>= f) q := by
  intro i b rest hread
  obtain ⟨⟨a, next⟩, ha, hb⟩ := Option.bind_eq_some_iff.mp hread
  exact h a (hr i a next ha) next b rest hb

/-- What is read behind something, whatever that is. -/
theorem andThen (h : ∀ a, Yields (f a) q) : Yields (r >>= f) q :=
  bind (p := fun _ => True) (fun _ _ _ _ => trivial) fun a _ => h a

/-- What is read behind a mark that may be left out. -/
theorem optional_andThen {b : Prop} [Decidable b] {mark : Reader Unit} {f : Unit → Reader β}
    (h : Yields (f ()) q) : Yields (if b then mark >>= f else f ()) q := by
  split
  · exact andThen fun _ => h
  · exact h

/-- What does not read anything and may fail. -/
theorem ofOption {o : Option α} (h : ∀ a, o = some a → p a) :
    Yields (fun i => o.map fun a => (a, i)) p := by
  intro i a rest hread
  obtain ⟨b, hb, heq⟩ := Option.map_eq_some_iff.mp hread
  obtain ⟨rfl, -⟩ := Prod.mk.inj heq
  exact h b hb

end Yields

/-- Whether all values that are read in a number of steps state each key once. -/
structure ReadsOnce (limit : ℕ) : Prop where
  value : ∀ depth, Yields (readValue limit depth) (·.keysDiffer = true)
  items : ∀ done depth, (∀ t ∈ done, t.keysDiffer = true) →
    Yields (readItems done limit depth) fun items => ∀ t ∈ items, t.keysDiffer = true
  pairs : ∀ depth, Yields (readPairs limit depth) fun pairs => ∀ p ∈ pairs, p.2.keysDiffer = true
  pairsFrom : ∀ done depth, (∀ p ∈ done, p.2.keysDiffer = true) →
    Yields (readPairsFrom done limit depth) fun pairs => ∀ p ∈ pairs, p.2.keysDiffer = true

namespace ReadsOnce

variable {limit : ℕ} (h : ReadsOnce limit)

include h

/-- Of the values only arrays and tables between braces hold others. -/
theorem value_succ (depth : ℕ) : Yields (readValue (limit + 1) depth) (·.keysDiffer = true) := by
  unfold readValue
  refine .andThen fun start => .andThen fun next => ?_
  split
  · exact .andThen fun text => .andThen fun span => .pure rfl
  · exact .andThen fun text => .andThen fun span => .pure rfl
  · refine .andThen fun _ => ?_
    split
    · refine (h.items [] _ (List.forall_mem_nil _)).bind fun items hitems => .andThen fun span => .pure ?_
      exact keysDiffer_array_iff.mpr hitems
    · exact .fail
  · refine .andThen fun _ => ?_
    split
    · refine (h.pairs _).bind fun pairs hpairs => .andThen fun span => .ofOption fun t ht => ?_
      exact keysDiffer_of_foldlM_addAt hpairs (keysDiffer_table_iff.mpr .nil) ht
    · exact .fail
  · exact .andThen fun _ => .andThen fun span => .pure rfl
  · exact .andThen fun _ => .andThen fun span => .pure rfl
  · split
    · exact .andThen fun _ => .andThen fun span => .pure rfl
    · refine .andThen fun moment => ?_
      split
      · exact .andThen fun span => .pure rfl
      · refine .andThen fun float => ?_
        split
        · exact .andThen fun span => .pure rfl
        · exact .andThen fun n => .andThen fun span => .pure rfl
  · exact .fail

/-- With one more step to go, the items of an array state each key once. -/
theorem items_succ (done : List Toml) (depth : ℕ) (hdone : ∀ t ∈ done, t.keysDiffer = true) :
    Yields (readItems done (limit + 1) depth) fun items => ∀ t ∈ items, t.keysDiffer = true := by
  unfold readItems
  refine .andThen fun _ => .andThen fun closed => ?_
  split
  · exact .pure fun t ht => hdone t (List.mem_reverse.mp ht)
  · refine (h.value depth).bind fun item hitem => .andThen fun _ => .andThen fun more => ?_
    have hnext : ∀ t ∈ item :: done, t.keysDiffer = true := List.forall_mem_cons.mpr ⟨hitem, hdone⟩
    split
    · exact h.items _ depth hnext
    · exact .andThen fun _ => .pure fun t ht => hnext t (List.mem_reverse.mp ht)

/-- With one more step to go, the pairs of a table in a line state each key once. -/
theorem pairs_succ (depth : ℕ) :
    Yields (readPairs (limit + 1) depth) fun pairs => ∀ p ∈ pairs, p.2.keysDiffer = true := by
  unfold readPairs
  refine .andThen fun _ => .andThen fun closed => ?_
  split
  · exact .pure (List.forall_mem_nil _)
  · exact h.pairsFrom [] depth (List.forall_mem_nil _)

/-- With one more step to go, the pairs behind those already read state each key once. -/
theorem pairsFrom_succ (done : List (List Key × Toml)) (depth : ℕ)
    (hdone : ∀ p ∈ done, p.2.keysDiffer = true) :
    Yields (readPairsFrom done (limit + 1) depth) fun pairs => ∀ p ∈ pairs, p.2.keysDiffer = true := by
  unfold readPairsFrom
  refine .andThen fun path => .andThen fun _ => .andThen fun _ => ?_
  refine (h.value depth).bind fun value hvalue => .andThen fun _ => .andThen fun more => ?_
  have hnext : ∀ p ∈ (path, value) :: done, p.2.keysDiffer = true :=
    List.forall_mem_cons.mpr ⟨hvalue, hdone⟩
  split
  · exact h.pairsFrom _ depth hnext
  · exact .andThen fun _ => .pure fun p hp => hnext p (List.mem_reverse.mp hp)

end ReadsOnce

/-- All values that are read state each key once. -/
theorem readsOnce (limit : ℕ) : ReadsOnce limit := by
  induction limit with
  | zero =>
    constructor
    all_goals simp only [readValue, readItems, readPairs, readPairsFrom]
    · exact fun _ => .fail
    · exact fun _ _ _ => .fail
    · exact fun _ => .fail
    · exact fun _ _ _ => .fail
  | succ limit ih => exact ⟨ih.value_succ, ih.items_succ, ih.pairs_succ, ih.pairsFrom_succ⟩

/-- A document that is changed is a document if the change keeps each key stated once. -/
theorem yields_change {d : Draft} {change : Toml → Option Toml} {current : List Key}
    (hd : d.document.IsDocument) (h : Keeps change) :
    Yields (Draft.change ⟨d.document, current⟩ (change d.document)) (·.document.IsDocument) := by
  unfold Draft.change
  split
  next document hdocument => exact .pure (h _ _ hd.keysDiffer hdocument)
  next => exact .fail

/-- A header keeps the document one that states each key once. -/
theorem yields_readHeader {d : Draft} (hd : d.document.IsDocument) :
    Yields (readHeader d) (·.document.IsDocument) := by
  unfold readHeader
  refine .andThen fun start => .andThen fun ofArray => .optional_andThen ?_
  refine .andThen fun path => .andThen fun _ => .andThen fun stop => .andThen fun _ => ?_
  split
  · exact .fail
  next =>
    refine yields_change hd (Keeps.modifyAt ?_ .header _)
    split
    · exact keeps_stateItem _ _
    · exact keeps_stateTable _ _

/-- A line keeps the document one that states each key once. -/
theorem yields_readLine {d : Draft} (hd : d.document.IsDocument) :
    Yields (readLine d) (·.document.IsDocument) := by
  unfold readLine
  refine .andThen fun path => .andThen fun _ => .andThen fun _ => .andThen fun left => ?_
  refine ((readsOnce _).value 0).bind fun value hvalue => .andThen fun _ => ?_
  exact yields_change hd ((keeps_addLine path hvalue).modifyAt .header d.current)

/-- Lines keep the document one that states each key once. -/
theorem yields_readLines {d : Draft} (hd : d.document.IsDocument) (limit : ℕ) :
    Yields (readLines d limit) (·.document.IsDocument) := by
  induction limit generalizing d with
  | zero => exact .pure hd
  | succ limit ih =>
    unfold readLines
    refine .andThen fun _ => .andThen fun next => ?_
    split
    · exact .pure hd
    · exact .andThen fun _ => ih hd
    · exact .andThen fun _ => ih hd
    · exact .andThen fun _ => ih hd
    · exact (yields_readHeader hd).bind fun _ hnext => ih hnext
    · exact (yields_readLine hd).bind fun _ hnext => ih hnext

/-- A text without a mark in front is read from its first character on. -/
theorem parse_of_toList {text : String} {chars : List Char} (hchars : text.toList = chars)
    (hmark : chars.head? ≠ some '\ufeff') :
    parse text = (readLines ⟨.table none .stated [], []⟩ (chars.length + 1) ⟨chars, 0⟩).map
      fun read => read.1.document := by
  simp only [parse, hchars, if_neg hmark]
  cases readLines ⟨.table none .stated [], []⟩ (chars.length + 1) ⟨chars, 0⟩ <;> rfl

/-- What a text writes is a table, and every table in it states each key once. -/
theorem isDocument_of_parse {text : String} {document : Toml} (h : parse text = some document) :
    document.IsDocument := by
  obtain ⟨⟨d, rest⟩, hread, hdocument⟩ := Option.bind_eq_some_iff.mp h
  rw [← Option.some.inj hdocument]
  exact yields_readLines (isDocument_table_iff.mpr .nil) _ _ _ _ hread

end LayerAudit.Toml
