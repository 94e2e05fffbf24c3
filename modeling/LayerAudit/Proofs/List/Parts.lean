import Mathlib.Data.List.Forall2

/-!
# Parts of lists

What is stated of the items of a list one by one is left out with the items, and is shown alike where the items
are. What a list ends with, and where an item occurs in it first, is told from how it is put together.
-/

namespace LayerAudit

variable {α β γ δ ε : Type}

/-- A test with the same outcome everywhere leaves all in or nothing. -/
theorem filter_eq_ite {items : List α} {keep : α → Bool} {kept : Bool}
    (h : ∀ a ∈ items, keep a = kept) : items.filter keep = if kept then items else [] := by
  rw [List.filter_congr h]
  cases kept <;> simp

/-- What is stated of items one by one is left out with the items, if it tells which are left out. -/
theorem filter_flatMap_eq {items : List α} {states stated : α → List β} {keep : β → Bool}
    {kept : α → Bool} (h : ∀ a ∈ items, (states a).filter keep = if kept a then stated a else []) :
    (items.flatMap states).filter keep = (items.filter kept).flatMap stated := by
  induction items with
  | nil => rfl
  | cons a items ih =>
    rw [List.flatMap_cons, List.filter_append, h a List.mem_cons_self,
      ih fun b hb => h b (List.mem_cons_of_mem _ hb), List.filter_cons]
    split
    · rw [List.flatMap_cons]
    · rfl

/-- Of what each item of a list states, a test that only one item's statements pass leaves these, as
often as the item occurs. -/
theorem filter_flatMap_eq_replicate [DecidableEq α] {items : List α} {states : α → List β}
    {keep : β → Bool} {a : α} (h : ∀ b ∈ items, ∀ s ∈ states b, keep s = decide (b = a)) :
    (items.flatMap states).filter keep = (List.replicate (items.count a) (states a)).flatten := by
  have hkept (b : α) (hb : b ∈ items) :
      (states b).filter keep = if b == a then states b else [] := filter_eq_ite (h b hb)
  rw [filter_flatMap_eq hkept, List.filter_beq, List.flatMap_replicate]

/-- What is stated of items that come in pairs is shown alike if it is for each pair. -/
theorem map_flatMap_of_forall₂ {R : α → β → Prop} {items : List α} {others : List β}
    (h : List.Forall₂ R items others) {states : α → List γ} {statesOther : β → List δ} {f : γ → ε}
    {g : δ → ε} (hstates : ∀ x y, R x y → (statesOther y).map g = (states x).map f) :
    (others.flatMap statesOther).map g = (items.flatMap states).map f := by
  induction h with
  | nil => rfl
  | cons hpair _ ih =>
    rw [List.flatMap_cons, List.flatMap_cons, List.map_append, List.map_append, hstates _ _ hpair, ih]

/-- Of a list with one more element behind it, what is not last is from the list. -/
theorem mem_of_concat_eq {all front back : List α} {last a : α}
    (h : all ++ [last] = front ++ a :: back) (hback : back ≠ []) : a ∈ all := by
  have hall := congrArg List.dropLast h
  rw [List.dropLast_concat, List.dropLast_append_of_ne_nil (List.cons_ne_nil _ _),
    List.dropLast_cons_of_ne_nil hback] at hall
  rw [hall]
  exact List.mem_append_right _ List.mem_cons_self

/-- What a list ends with stands behind any item of the list that it does not hold itself. -/
theorem exists_eq_append_of_not_mem {before rest front segment : List α} {mark : α}
    (h : before ++ [mark] ++ rest = front ++ segment) (hmark : mark ∉ segment) :
    ∃ start, rest = start ++ segment := by
  rcases List.append_eq_append_iff.mp h with ⟨start, -, hrest⟩ | ⟨more, hbefore, hsegment⟩
  · exact ⟨start, hrest⟩
  · rcases List.eq_nil_or_concat more with rfl | ⟨more, last, rfl⟩
    · exact ⟨[], by rw [hsegment, List.nil_append, List.nil_append]⟩
    · rw [List.concat_eq_append, ← List.append_assoc] at hbefore
      obtain ⟨-, hlast⟩ := List.append_inj' hbefore rfl
      rw [hsegment, List.cons.inj hlast |>.1] at hmark
      simp at hmark

section FirstOccurrence

variable [BEq α] [LawfulBEq α] {a : α} {xs ys : List α}

/-- What stands in front of the first occurrence of an item depends on nothing behind it. -/
theorem takeWhile_append_of_mem (h : a ∈ xs) :
    (xs ++ ys).takeWhile (· != a) = xs.takeWhile (· != a) := by
  induction xs with
  | nil => cases h
  | cons x xs ih =>
    by_cases hx : x = a
    · simp [hx]
    · have hxs : a ∈ xs := (List.mem_cons.mp h).resolve_left (Ne.symm hx)
      simp [hx, ih hxs]

/-- An item that does not occur differs from all that do. -/
theorem ne_of_not_mem (h : a ∉ xs) : ∀ x ∈ xs, (x != a) = true := by
  intro x hx
  rw [bne_iff_ne]
  rintro rfl
  exact h hx

end FirstOccurrence

end LayerAudit
