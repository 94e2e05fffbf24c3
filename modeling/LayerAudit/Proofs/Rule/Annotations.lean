import LayerAudit.Rule.TypeQuality
import Mathlib.Data.List.TakeWhile
import Mathlib.Data.Nat.Count

/-!
# The scan for annotations misses none

The scan reads an annotation, goes on behind it and looks for the next one. What an annotation is can be
said without the scan: a colon, blanks, the type's name and a character that ends it. Main statement: the
scan counts every position of a text where an annotation starts and passes over none by going on behind
the one before. A text that is cut in two loses at most the annotation that lies across the cut.

An annotation has its colon at its start and no other one, so no annotation starts within another. All that
is said of going on and of cutting follows from this.
-/

namespace LayerAudit.Rule.TypeQuality

/-- Whether characters are an annotation. -/
def IsAnnotation (word : List Char) : Prop :=
  ∃ blanks last, (∀ b ∈ blanks, Text.isBlank b = true) ∧
    (Text.isBlank last = true ∨ last = ';' ∨ last = ',' ∨ last = ')') ∧
    word = ':' :: (blanks ++ ['a', 'n', 'y', last])

/-- Whether a text starts with an annotation. -/
def StartsAnnotation (cs : List Char) : Prop := ∃ word, IsAnnotation word ∧ word <+: cs

/-- Whether a scan that takes the leftmost annotation of what is left, and goes on behind it, comes to a
number of annotations. -/
inductive ScansTo : List Char → ℕ → Prop
  | done {cs : List Char} (none : ∀ i < cs.length, ¬ StartsAnnotation (cs.drop i)) : ScansTo cs 0
  | next {before word after : List Char} {n : ℕ} (first : IsAnnotation word)
      (leftmost : ∀ i < before.length, ¬ StartsAnnotation ((before ++ (word ++ after)).drop i))
      (rest : ScansTo after n) : ScansTo (before ++ (word ++ after)) (n + 1)

variable {cs s t after word : List Char} {c : Char} {n : ℕ}

/-- An annotation is ended by a blank, a semicolon, a comma or a closing parenthesis. -/
theorem isTerminator_iff :
    isTerminator c = true ↔ Text.isBlank c = true ∨ c = ';' ∨ c = ',' ∨ c = ')' := by
  simp only [isTerminator, Bool.or_eq_true, decide_eq_true_eq, or_assoc]

/-- What follows a colon is read as an annotation exactly if it is one with the colon. -/
theorem annotationEnd?_eq_some_iff :
    annotationEnd? cs = some after ↔ ∃ word, IsAnnotation (':' :: word) ∧ cs = word ++ after := by
  constructor
  · intro h
    unfold annotationEnd? at h
    split at h
    next last rest heq =>
      split at h
      next hlast =>
        obtain rfl : rest = after := Option.some.inj h
        refine ⟨cs.takeWhile Text.isBlank ++ ['a', 'n', 'y', last],
          ⟨_, last, fun b hb => List.mem_takeWhile_imp hb, isTerminator_iff.mp hlast, rfl⟩, ?_⟩
        rw [List.append_assoc]
        exact List.takeWhile_append_dropWhile.symm.trans (congrArg _ heq)
      next => exact nomatch h
    next => exact nomatch h
  · rintro ⟨word, ⟨blanks, last, hblanks, hlast, hword⟩, rfl⟩
    obtain rfl := (List.cons.inj hword).2
    have hdrop : (blanks ++ ['a', 'n', 'y', last] ++ after).dropWhile Text.isBlank =
        'a' :: 'n' :: 'y' :: last :: after := by
      rw [List.append_assoc, List.dropWhile_append_of_pos hblanks]
      rfl
    rw [annotationEnd?, hdrop]
    exact if_pos (isTerminator_iff.mpr hlast)

/-- No annotation starts where the text ends. -/
theorem not_startsAnnotation_nil : ¬ StartsAnnotation [] := by
  rintro ⟨_, ⟨blanks, last, -, -, rfl⟩, hprefix⟩
  exact List.cons_ne_nil _ _ (List.prefix_nil.mp hprefix)

/-- A text starts with an annotation exactly if it starts with a colon behind which one is read. -/
theorem startsAnnotation_cons :
    StartsAnnotation (c :: cs) ↔ c = ':' ∧ (annotationEnd? cs).isSome = true := by
  simp only [Option.isSome_iff_exists, annotationEnd?_eq_some_iff]
  constructor
  · rintro ⟨_, ⟨blanks, last, hblanks, hlast, rfl⟩, after, hafter⟩
    obtain ⟨rfl, rfl⟩ := List.cons.inj hafter
    exact ⟨rfl, after, _, ⟨blanks, last, hblanks, hlast, rfl⟩, rfl⟩
  · rintro ⟨rfl, after, word, hword, rfl⟩
    exact ⟨_, hword, after, rfl⟩

instance : DecidablePred StartsAnnotation
  | [] => isFalse not_startsAnnotation_nil
  | _ :: _ => decidable_of_iff _ startsAnnotation_cons.symm

/-- The number of positions of a text where an annotation starts. -/
def annotationStarts (cs : List Char) : ℕ :=
  Nat.count (fun i => StartsAnnotation (cs.drop i)) cs.length

/-- A text has one more annotation than the rest of it if one starts in front. -/
theorem annotationStarts_cons (c : Char) (cs : List Char) :
    annotationStarts (c :: cs) =
      annotationStarts cs + if StartsAnnotation (c :: cs) then 1 else 0 := by
  rw [annotationStarts, List.length_cons, Nat.count_succ']
  rfl

/-- Where no annotation starts, there is none to count. -/
theorem annotationStarts_append (h : ∀ i < s.length, ¬ StartsAnnotation ((s ++ t).drop i)) :
    annotationStarts (s ++ t) = annotationStarts t := by
  induction s with
  | nil => rfl
  | cons c s ih =>
    have hfirst : ¬ StartsAnnotation (c :: (s ++ t)) := h 0 (Nat.zero_lt_succ _)
    rw [List.cons_append, annotationStarts_cons, if_neg hfirst]
    exact ih fun i hi => h (i + 1) (Nat.succ_lt_succ hi)

/-- Where there is no colon, there is no annotation to count. -/
theorem annotationStarts_append_of_not_mem (h : ':' ∉ s) (t : List Char) :
    annotationStarts (s ++ t) = annotationStarts t := by
  refine annotationStarts_append fun i hi hstarts => h ?_
  rw [List.drop_append_of_le_length hi.le, List.drop_eq_getElem_cons hi, List.cons_append,
    startsAnnotation_cons] at hstarts
  rw [← hstarts.1]
  exact List.getElem_mem hi

/-- An annotation has its only colon at its start. -/
theorem IsAnnotation.exists_eq_cons (h : IsAnnotation word) :
    ∃ rest, word = ':' :: rest ∧ ':' ∉ rest := by
  obtain ⟨blanks, last, hblanks, hlast, rfl⟩ := h
  have hends : isTerminator ':' = false := by decide
  refine ⟨_, rfl, fun hmem => ?_⟩
  rcases List.mem_append.mp hmem with hmem | hmem
  · exact absurd (hblanks _ hmem) (by decide)
  · simp only [List.mem_cons, List.not_mem_nil, or_false] at hmem
    obtain hmem | hmem | hmem | rfl := hmem
    · exact absurd hmem (by decide)
    · exact absurd hmem (by decide)
    · exact absurd hmem (by decide)
    · exact absurd (isTerminator_iff.mpr hlast) (by rw [hends]; decide)

/-- A scan that takes the leftmost annotation each time comes to the number of positions where one
starts. -/
theorem ScansTo.eq_annotationStarts (h : ScansTo cs n) : n = annotationStarts cs := by
  induction h with
  | @done cs hnone =>
    have hall := annotationStarts_append (s := cs) (t := []) (by rwa [List.append_nil])
    rw [List.append_nil] at hall
    exact hall.symm
  | @next before word after n hword hleftmost hrest ih =>
    obtain ⟨rest, rfl, hrest⟩ := hword.exists_eq_cons
    have hstarts : StartsAnnotation (':' :: (rest ++ after)) := ⟨_, hword, after, rfl⟩
    rw [annotationStarts_append hleftmost, List.cons_append, annotationStarts_cons, if_pos hstarts,
      annotationStarts_append_of_not_mem hrest, ih]

/-- A scan goes over a character at which no annotation starts. -/
theorem ScansTo.cons (h : ScansTo cs n) (hc : ¬ StartsAnnotation (c :: cs)) : ScansTo (c :: cs) n := by
  have hall {positions : ℕ} {text : List Char} (hfirst : ¬ StartsAnnotation (c :: text))
      (hrest : ∀ i < positions, ¬ StartsAnnotation (text.drop i)) :
      ∀ i < positions + 1, ¬ StartsAnnotation ((c :: text).drop i)
    | 0, _ => hfirst
    | i + 1, hi => hrest i (Nat.lt_of_succ_lt_succ hi)
  cases h with
  | done hnone => exact .done (hall hc hnone)
  | @next before word after n hword hleftmost hrest =>
    have hscan : ScansTo (c :: before ++ (word ++ after)) (n + 1) :=
      .next hword (hall hc hleftmost) hrest
    exact hscan

/-- The count is that of a scan that takes the leftmost annotation each time. -/
theorem scansTo_countAnnotations (cs : List Char) : ScansTo cs (countAnnotations cs) := by
  fun_induction countAnnotations cs with
  | case1 => exact .done nofun
  | case2 rest after hend ih =>
    obtain ⟨word, hword, rfl⟩ := annotationEnd?_eq_some_iff.mp hend
    have hscan : ScansTo ([] ++ (':' :: word ++ after)) (countAnnotations after + 1) :=
      .next hword nofun ih
    exact hscan
  | case3 rest hend ih =>
    refine ih.cons fun hstarts => ?_
    rw [startsAnnotation_cons, hend] at hstarts
    exact nomatch hstarts.2
  | case4 c rest hc ih => exact ih.cons fun hstarts => hc (startsAnnotation_cons.mp hstarts).1

/-- An annotation at the start stays one, whatever is put behind the text. -/
theorem StartsAnnotation.append (h : StartsAnnotation s) (t : List Char) : StartsAnnotation (s ++ t) := by
  obtain ⟨word, hword, hprefix⟩ := h
  exact ⟨word, hword, hprefix.trans (List.prefix_append s t)⟩

/-- No colon lies between the start of an annotation and a cut that it lies across. -/
theorem not_mem_of_startsAnnotation_append (h : StartsAnnotation (c :: s ++ t))
    (hcut : ¬ StartsAnnotation (c :: s)) : ':' ∉ s := by
  obtain ⟨word, hword, hprefix⟩ := h
  obtain ⟨rest, rfl, hrest⟩ := hword.exists_eq_cons
  rcases List.prefix_or_prefix_of_prefix hprefix (List.prefix_append (c :: s) t) with hle | hle
  · exact absurd ⟨_, hword, hle⟩ hcut
  · exact fun hmem => hrest ((List.cons_prefix_cons.mp hle).2.subset hmem)

/-- A cut loses the annotation that lies across it, if there is one, and no other. -/
theorem annotationStarts_append_bounds (s t : List Char) :
    annotationStarts s + annotationStarts t ≤ annotationStarts (s ++ t) ∧
      annotationStarts (s ++ t) ≤ annotationStarts s + annotationStarts t + 1 := by
  induction s with
  | nil =>
    have hnil : annotationStarts [] = 0 := rfl
    rw [List.nil_append]
    omega
  | cons c s ih =>
    rw [List.cons_append, annotationStarts_cons, annotationStarts_cons]
    by_cases hstarts : StartsAnnotation (c :: s)
    · have hwhole : StartsAnnotation (c :: (s ++ t)) := hstarts.append t
      rw [if_pos hstarts, if_pos hwhole]
      omega
    · rw [if_neg hstarts]
      split
      next hacross =>
        rw [annotationStarts_append_of_not_mem
          (not_mem_of_startsAnnotation_append hacross hstarts)] at ih ⊢
        omega
      next => omega

/-- The count is the number that a scan comes to if it takes the leftmost annotation each time, and no such
scan comes to another number. It is the number of all positions where an annotation starts. A text that is
put together from two has the annotations of both and at most one more. -/
theorem countAnnotations_misses_none :
    (∀ cs : List Char, (∀ n, ScansTo cs n ↔ n = countAnnotations cs) ∧
      countAnnotations cs = Nat.count (fun i => StartsAnnotation (cs.drop i)) cs.length) ∧
      ∀ s t : List Char, countAnnotations s + countAnnotations t ≤ countAnnotations (s ++ t) ∧
        countAnnotations (s ++ t) ≤ countAnnotations s + countAnnotations t + 1 := by
  have hstarts (text : List Char) : countAnnotations text = annotationStarts text :=
    (scansTo_countAnnotations text).eq_annotationStarts
  refine ⟨fun cs => ⟨fun n => ⟨fun h => ?_, ?_⟩, hstarts cs⟩, fun s t => ?_⟩
  · rw [hstarts]
    exact h.eq_annotationStarts
  · rintro rfl
    exact scansTo_countAnnotations cs
  · rw [hstarts, hstarts, hstarts]
    exact annotationStarts_append_bounds s t

end LayerAudit.Rule.TypeQuality
