import Mathlib.Data.List.Flatten
import Mathlib.Data.List.Forall2

/-!
# Lists that are matched in order

The members of one list are matched, in order and one by one, by members of another list, some of which may be
left over. This is kept where lists are put together from parts, taken apart, or left with fewer members.
-/

namespace List

variable {α β γ : Type} {R : α → β → Prop}

/-- Lists that are matched in order stay so if they are put together. -/
theorem SublistForall₂.append {as cs : List α} {bs ds : List β} (h : SublistForall₂ R as bs)
    (h' : SublistForall₂ R cs ds) : SublistForall₂ R (as ++ cs) (bs ++ ds) := by
  obtain ⟨kept, hmatch, hsub⟩ := sublistForall₂_iff.mp h
  obtain ⟨kept', hmatch', hsub'⟩ := sublistForall₂_iff.mp h'
  exact sublistForall₂_iff.mpr ⟨kept ++ kept', rel_append hmatch hmatch', hsub.append hsub'⟩

/-- Lists that are put together from parts are matched in order if the parts are. -/
theorem SublistForall₂.flatMap {items : List γ} {f : γ → List α} {g : γ → List β}
    (h : ∀ c ∈ items, SublistForall₂ R (f c) (g c)) :
    SublistForall₂ R (items.flatMap f) (items.flatMap g) := by
  induction items with
  | nil => exact .nil
  | cons c items ih =>
    rw [flatMap_cons, flatMap_cons]
    exact (h c mem_cons_self).append (ih fun d hd => h d (mem_cons_of_mem _ hd))

/-- Parts that have one member at most are matched by one member each. -/
theorem SublistForall₂.flatMap_map {items : List γ} {f : γ → List α} {g : γ → β}
    (h : ∀ c ∈ items, SublistForall₂ R (f c) [g c]) :
    SublistForall₂ R (items.flatMap f) (items.map g) := by
  rw [map_eq_flatMap]
  exact .flatMap h

/-- What is left of a list is matched as the whole was. -/
theorem SublistForall₂.of_sublist {as cs : List α} {bs : List β} (hsub : cs <+ as)
    (h : SublistForall₂ R as bs) : SublistForall₂ R cs bs := by
  induction h generalizing cs with
  | nil =>
    rw [sublist_nil.mp hsub]
    exact .nil
  | cons hab _ ih =>
    rcases sublist_cons_iff.mp hsub with hskip | ⟨rest, rfl, hrest⟩
    · exact .cons_right (ih hskip)
    · exact .cons hab (ih hrest)
  | cons_right _ ih => exact .cons_right (ih hsub)

/-- Tests that agree on what is matched leave lists that are matched. -/
theorem SublistForall₂.filter {as : List α} {bs : List β} {p : α → Bool} {q : β → Bool}
    (hpq : ∀ {a b}, R a b → p a = q b) (h : SublistForall₂ R as bs) :
    SublistForall₂ R (as.filter p) (bs.filter q) := by
  induction h with
  | nil => exact .nil
  | cons hab _ ih =>
    rw [filter_cons, filter_cons, hpq hab]
    split
    · exact .cons hab ih
    · exact ih
  | cons_right _ ih =>
    rw [filter_cons]
    split
    · exact .cons_right ih
    · exact ih

/-- Every member is matched by one of the other list. -/
theorem SublistForall₂.exists_of_mem {as : List α} {bs : List β} (h : SublistForall₂ R as bs) {a : α}
    (ha : a ∈ as) : ∃ b ∈ bs, R a b := by
  induction h with
  | nil => exact absurd ha not_mem_nil
  | cons hab _ ih =>
    rcases mem_cons.mp ha with rfl | hrest
    · exact ⟨_, mem_cons_self, hab⟩
    · obtain ⟨b, hb, hR⟩ := ih hrest
      exact ⟨b, mem_cons_of_mem _ hb, hR⟩
  | cons_right _ ih =>
    obtain ⟨b, hb, hR⟩ := ih ha
    exact ⟨b, mem_cons_of_mem _ hb, hR⟩

/-- What is matched in order stays so if the pairs are told by less. -/
theorem SublistForall₂.imp {S : α → β → Prop} {as : List α} {bs : List β}
    (hRS : ∀ {a b}, R a b → S a b) (h : SublistForall₂ R as bs) : SublistForall₂ S as bs := by
  induction h with
  | nil => exact .nil
  | cons hab _ ih => exact .cons (hRS hab) ih
  | cons_right _ ih => exact .cons_right ih

/-- What is matched by a list that is put together is put together from what its parts match. -/
theorem SublistForall₂.exists_parts {as : List α} {groups : List (List β)}
    (h : SublistForall₂ R as groups.flatten) :
    ∃ parts, as = parts.flatten ∧ Forall₂ (SublistForall₂ R) parts groups := by
  obtain ⟨kept, hmatch, hsub⟩ := sublistForall₂_iff.mp h
  clear h
  induction groups generalizing as kept with
  | nil =>
    rw [flatten_nil, sublist_nil] at hsub
    subst hsub
    exact ⟨[], forall₂_nil_right_iff.mp hmatch, .nil⟩
  | cons group groups ih =>
    rw [flatten_cons] at hsub
    obtain ⟨first, later, rfl, hfirst, hlater⟩ := sublist_append_iff.mp hsub
    have hmatchFirst := forall₂_take_append as first later hmatch
    have hmatchLater := forall₂_drop_append as first later hmatch
    obtain ⟨parts, hrest, hparts⟩ := ih later hmatchLater hlater
    refine ⟨as.take first.length :: parts, ?_, .cons ?_ hparts⟩
    · rw [flatten_cons, ← hrest, take_append_drop]
    · exact sublistForall₂_iff.mpr ⟨first, hmatchFirst, hfirst⟩

end List
