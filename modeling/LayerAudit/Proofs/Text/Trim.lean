import LayerAudit.Text.Blank
import Mathlib.Data.List.Basic
import Mathlib.Data.List.TakeWhile

/-!
# Trimmed text

What trimming leaves of a text is told without the way in which it is computed: it neither starts nor ends
with a character to be dropped, and nothing but such characters stood in front of it and behind it. There
is one such part of every text.

So trimming comes to the same for a text and for one that is wrapped in characters to be dropped, and it
changes a text exactly if the text has such a character at an end.
-/

namespace LayerAudit.Text

variable {test : Char → Bool} {cs core front back : List Char}

/-- Whether a text neither starts nor ends with a character that passes a test. -/
def HasBareEnds (test : Char → Bool) (cs : List Char) : Prop :=
  (∀ c ∈ cs.head?, test c = false) ∧ ∀ c ∈ cs.getLast?, test c = false

/-- What is left of a text without the characters at its ends that pass a test. -/
structure IsTrimmed (test : Char → Bool) (cs core : List Char) : Prop where
  bare : HasBareEnds test core
  wrapped : ∃ front back, cs = front ++ core ++ back ∧
    (∀ c ∈ front, test c = true) ∧ ∀ c ∈ back, test c = true

/-- Nothing is dropped from the start of a text that starts with a character to be kept. -/
theorem dropWhile_eq_self (h : ∀ c ∈ cs.head?, test c = false) : cs.dropWhile test = cs := by
  cases cs with
  | nil => rfl
  | cons c rest =>
    have hc : test c = false := h c rfl
    rw [List.dropWhile_cons_of_neg]
    simp [hc]

/-- What is left behind characters to be dropped starts with one to be kept. -/
theorem head?_dropWhile (test : Char → Bool) (cs : List Char) :
    ∀ c ∈ (cs.dropWhile test).head?, test c = false := by
  intro c hc
  have hhead := List.head?_dropWhile_not test cs
  rw [Option.mem_def.mp hc] at hhead
  exact hhead

/-- Trimming a text gives what is left of it without the characters to be dropped. -/
theorem isTrimmed_trimWhere (test : Char → Bool) (cs : List Char) :
    IsTrimmed test cs (trimWhere test cs) := by
  let rest := cs.dropWhile test
  let back := (rest.reverse.takeWhile test).reverse
  have hrest : rest = trimWhere test cs ++ back := by
    simp only [trimWhere, back, rest, ← List.reverse_append, List.takeWhile_append_dropWhile,
      List.reverse_reverse]
  refine ⟨⟨?_, ?_⟩, cs.takeWhile test, back, ?_, ?_, ?_⟩
  · intro c hc
    apply head?_dropWhile test cs
    change c ∈ rest.head?
    rw [hrest, List.head?_append, Option.mem_def.mp hc]
    rfl
  · rw [trimWhere, List.getLast?_reverse]
    exact head?_dropWhile test rest.reverse
  · rw [List.append_assoc, ← hrest, List.takeWhile_append_dropWhile]
  · exact fun c hc => List.mem_takeWhile_imp hc
  · exact fun c hc => List.mem_takeWhile_imp (List.mem_reverse.mp hc)

/-- What is left of a text without the characters to be dropped is what trimming gives. -/
theorem IsTrimmed.trimWhere_eq (h : IsTrimmed test cs core) : trimWhere test cs = core := by
  obtain ⟨hbare, front, back, rfl, hfront, hback⟩ := h
  rw [trimWhere, List.append_assoc, List.dropWhile_append_of_pos hfront]
  have hbehind : ∀ c ∈ back.reverse, test c = true := fun c hc => hback c (List.mem_reverse.mp hc)
  have hend : ∀ c ∈ core.reverse.head?, test c = false := by
    rw [List.head?_reverse]
    exact hbare.2
  cases core with
  | nil =>
    rw [List.nil_append, List.dropWhile_eq_nil_iff.mpr hback]
    rfl
  | cons first rest =>
    have hstart : ∀ c ∈ (first :: rest ++ back).head?, test c = false := hbare.1
    rw [dropWhile_eq_self hstart, List.reverse_append, List.dropWhile_append_of_pos hbehind,
      dropWhile_eq_self hend, List.reverse_reverse]

/-- Trimming gives the one part of a text that is left without the characters to be dropped. -/
theorem trimWhere_eq_iff : trimWhere test cs = core ↔ IsTrimmed test cs core := by
  constructor
  · rintro rfl
    exact isTrimmed_trimWhere test cs
  · exact IsTrimmed.trimWhere_eq

/-- Trimming leaves a text as it is exactly if it has no character to be dropped at its ends. -/
theorem trimWhere_eq_self_iff : trimWhere test cs = cs ↔ HasBareEnds test cs := by
  constructor
  · intro h
    rw [← h]
    exact (isTrimmed_trimWhere test cs).bare
  · intro h
    apply IsTrimmed.trimWhere_eq
    exact ⟨h, [], [], by simp, by simp, by simp⟩

/-- Trimming comes to the same if characters to be dropped are put around a text. -/
theorem trimWhere_append (hfront : ∀ c ∈ front, test c = true) (hback : ∀ c ∈ back, test c = true) :
    trimWhere test (front ++ cs ++ back) = trimWhere test cs := by
  apply IsTrimmed.trimWhere_eq
  obtain ⟨hbare, before, behind, hcs, hbefore, hbehind⟩ := isTrimmed_trimWhere test cs
  refine ⟨hbare, front ++ before, behind ++ back, ?_, ?_, ?_⟩
  · conv_lhs => rw [hcs]
    simp only [List.append_assoc]
  · exact List.forall_mem_append.mpr ⟨hfront, hbefore⟩
  · exact List.forall_mem_append.mpr ⟨hbehind, hback⟩

end LayerAudit.Text
