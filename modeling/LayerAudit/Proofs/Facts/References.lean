import LayerAudit.Facts.Basic
import LayerAudit.Proofs.List.Parts
import LayerAudit.Proofs.Text.Trim
import Mathlib.Data.List.Infix

/-!
# Names read off references

A class refers to a base class by identifiers with full stops between them, and maybe with type arguments.
Between these tokens there may be white space and comments. The name is cut out of the text as it stands:
in front of the first angle bracket and behind the last full stop, also where these are in a comment.

Main statement: the name read is the last identifier if no angle bracket is in a comment, and if behind the
last full stop only blanks stand around the identifier. So white space does no harm, but for the three
characters that a source takes for white space and trimming does not. Unless the identifier occurs in a
comment, the condition is also necessary.
-/

namespace LayerAudit

open Text

/-- Whether a source takes a character for white space. -/
def isSpace (c : Char) : Bool := isBlank c || c = '\u200b' || c = '\u2060' || c = '\ufeff'

/-- Whether a character may stand in an identifier; of the punctuation, what matters to references and to
comments is left out. -/
def isIdentifierChar (c : Char) : Bool := !isSpace c && !(['.', '<', '/', '*'].contains c)

/-- An identifier. -/
structure Identifier where
  chars : List Char
  ne_nil : chars ≠ []
  valid : ∀ c ∈ chars, isIdentifierChar c = true

/-- What may stand between two tokens: white space or a comment. -/
inductive Filler where
  | space (c : Char) (valid : isSpace c = true)
  | block (body : List Char)
  | line (body : List Char)

/-- An identifier as a name. -/
def Identifier.text (name : Identifier) : String := String.ofList name.chars

namespace Filler

/-- The characters of a filler. -/
def chars : Filler → List Char
  | space c _ => [c]
  | block body => ['/', '*'] ++ body ++ ['*', '/']
  | line body => ['/', '/'] ++ body ++ ['\n']

/-- What a comment says. -/
def body : Filler → List Char
  | space _ _ => []
  | block body => body
  | line body => body

end Filler

/-- The characters between two tokens. -/
def gapChars (gap : List Filler) : List Char := gap.flatMap Filler.chars

/-- An identifier with the full stop behind it. -/
structure Qualifier where
  identifier : Identifier
  /-- What stands in front of the full stop. -/
  ahead : List Filler
  /-- What stands behind the full stop. -/
  behind : List Filler

/-- The characters of a qualifier. -/
def Qualifier.chars (q : Qualifier) : List Char :=
  q.identifier.chars ++ gapChars q.ahead ++ ['.'] ++ gapChars q.behind

/-- Type arguments, with what stands in front of them. -/
structure TypeArguments where
  ahead : List Filler
  /-- What stands between the outer angle brackets. -/
  content : List Char

/-- A reference to a class: identifiers with full stops between them, and maybe type arguments. -/
structure Reference where
  qualifiers : List Qualifier
  /-- The last identifier. -/
  last : Identifier
  arguments : Option TypeArguments

namespace Reference

/-- The characters in front of the last identifier. -/
def front (r : Reference) : List Char := r.qualifiers.flatMap Qualifier.chars

/-- What stands between the last identifier and the type arguments. -/
def gap (r : Reference) : List Filler := (r.arguments.map TypeArguments.ahead).getD []

/-- The characters of the type arguments. -/
def argumentChars (r : Reference) : List Char :=
  (r.arguments.map fun a => ['<'] ++ a.content ++ ['>']).getD []

/-- The characters in front of the type arguments. -/
def head (r : Reference) : List Char := r.front ++ r.last.chars ++ gapChars r.gap

/-- The text of a reference, as written. -/
def typeRef (r : Reference) : TypeRef := ⟨String.ofList (r.head ++ r.argumentChars)⟩

/-- All that stands between the tokens in front of the type arguments. -/
def fillers (r : Reference) : List Filler :=
  r.qualifiers.flatMap (fun q => q.ahead ++ q.behind) ++ r.gap

/-- Whether the last identifier can be cut out of the text: no comment has an angle bracket in it, and from
the last full stop, even one in a comment, only blanks stand in front of the identifier and behind it. -/
structure ReadsThrough (r : Reference) : Prop where
  bracketless : ∀ f ∈ r.fillers, '<' ∉ f.body
  front : ∀ c ∈ TypeRef.lastSegment r.front, isBlank c = true
  gap : ∀ c ∈ gapChars r.gap, isBlank c = true

/-- Whether the last identifier occurs in no comment. -/
def Unsaid (r : Reference) : Prop := ∀ f ∈ r.fillers, ¬r.last.chars <:+: f.body

end Reference

namespace TypeRef

/-- Whether a text is empty or ends with a full stop. -/
def EndsSegment (cs : List Char) : Prop := cs = [] ∨ ∃ before, cs = before ++ ['.']

/-- The last segment of a text is what stands behind its last full stop. -/
theorem lastSegment_append {front segment : List Char} (hfront : EndsSegment front)
    (hsegment : '.' ∉ segment) : lastSegment (front ++ segment) = segment := by
  have hpass : ∀ c ∈ segment.reverse, (c != '.') = true := by
    intro c hc
    rw [bne_iff_ne]
    rintro rfl
    exact hsegment (List.mem_reverse.mp hc)
  rw [lastSegment, List.reverse_append, List.takeWhile_append_of_pos hpass]
  rcases hfront with rfl | ⟨before, rfl⟩
  · simp
  · simp

/-- In front of its last segment, a text is empty or ends with a full stop. -/
theorem exists_eq_append_lastSegment (cs : List Char) :
    ∃ front, cs = front ++ lastSegment cs ∧ EndsSegment front ∧ '.' ∉ lastSegment cs := by
  have hdot : '.' ∉ lastSegment cs := by
    intro hmem
    have hpass := List.mem_takeWhile_imp (List.mem_reverse.mp hmem)
    simp at hpass
  refine ⟨(cs.reverse.dropWhile (· != '.')).reverse, ?_, ?_, hdot⟩
  · rw [lastSegment, ← List.reverse_append, List.takeWhile_append_dropWhile, List.reverse_reverse]
  · cases hrest : cs.reverse.dropWhile (· != '.') with
    | nil => exact Or.inl rfl
    | cons c rest =>
      have hstop := head?_dropWhile (· != '.') cs.reverse c (by rw [hrest]; rfl)
      obtain rfl : c = '.' := by simpa using hstop
      exact Or.inr ⟨rest.reverse, List.reverse_cons⟩

/-- It makes no difference to the last segment, once it is trimmed, whether the text was trimmed. -/
theorem trimWhere_lastSegment_trimWhere (cs : List Char) :
    trimWhere isBlank (lastSegment (trimWhere isBlank cs)) = trimWhere isBlank (lastSegment cs) := by
  obtain ⟨-, before, behind, hcs, hbefore, hbehind⟩ := isTrimmed_trimWhere isBlank cs
  generalize trimWhere isBlank cs = core at hcs
  obtain ⟨front, hcore, hfront, hdot⟩ := exists_eq_append_lastSegment core
  generalize lastSegment core = segment at hcore hdot
  have hblank {blanks : List Char} (h : ∀ c ∈ blanks, isBlank c = true) : '.' ∉ blanks :=
    fun hmem => absurd (h '.' hmem) (by decide)
  rcases hfront with rfl | ⟨start, rfl⟩
  · have hlast : lastSegment cs = before ++ segment ++ behind := by
      rw [hcs, hcore, List.nil_append]
      have hwhole : '.' ∉ before ++ segment ++ behind := by
        simp [hdot, hblank hbefore, hblank hbehind]
      exact lastSegment_append (Or.inl rfl) hwhole
    rw [hlast, trimWhere_append hbefore hbehind]
  · have hlast : lastSegment cs = [] ++ segment ++ behind := by
      rw [hcs, hcore, List.nil_append, ← List.append_assoc before, List.append_assoc _ segment]
      apply lastSegment_append
      · exact Or.inr ⟨before ++ start, (List.append_assoc before start ['.']).symm⟩
      · simp [hdot, hblank hbehind]
    rw [hlast, trimWhere_append (by simp) hbehind]

/-- The name read off a text is the last segment of what stands in front of the first angle bracket, without
the blanks around it. -/
theorem toList_simpleName (t : TypeRef) :
    t.simpleName.toList =
      trimWhere isBlank (lastSegment (t.text.toList.takeWhile (· != '<'))) := by
  rw [simpleName, String.toList_ofList, trimWhere_lastSegment_trimWhere]

end TypeRef

/-- What may stand in an identifier is no blank. -/
theorem isBlank_of_isIdentifierChar {c : Char} (h : isIdentifierChar c = true) : isBlank c = false := by
  simp only [isIdentifierChar, isSpace, Bool.and_eq_true, Bool.not_eq_true', Bool.or_eq_false_iff] at h
  exact h.1.1.1.1

/-- No character of an identifier is blank. -/
theorem Identifier.isBlank_eq_false (name : Identifier) {c : Char} (h : c ∈ name.chars) :
    isBlank c = false :=
  isBlank_of_isIdentifierChar (name.valid c h)

/-- Trimming leaves an identifier as it is. -/
theorem Identifier.hasBareEnds (name : Identifier) : HasBareEnds isBlank name.chars :=
  ⟨fun _ hc => name.isBlank_eq_false (List.mem_of_mem_head? hc),
    fun _ hc => name.isBlank_eq_false (List.mem_of_mem_getLast? hc)⟩

/-- What cannot stand in an identifier does not. -/
theorem Identifier.not_mem_of_isIdentifierChar (name : Identifier) {c : Char}
    (h : isIdentifierChar c = false) : c ∉ name.chars := by
  intro hc
  rw [name.valid c hc] at h
  contradiction

/-- An angle bracket stands in a filler only if a comment says it. -/
theorem Filler.bracket_mem_chars_iff (f : Filler) : '<' ∈ f.chars ↔ '<' ∈ f.body := by
  cases f with
  | space c hspace =>
    have hc : '<' ≠ c := by
      rintro rfl
      contradiction
    simp [Filler.chars, Filler.body, hc]
  | block body => simp [Filler.chars, Filler.body]
  | line body => simp [Filler.chars, Filler.body]

/-- Whether a text breaks off in a comment or with one: behind a character that is neither blank nor part
of an identifier, it goes on with a part of a comment, if at all, and then with blanks. -/
def EndsInComment (fillers : List Filler) (cs : List Char) : Prop :=
  ∃ before mark said blanks, cs = before ++ [mark] ++ said ++ blanks ∧
    isBlank mark = false ∧ isIdentifierChar mark = false ∧
    (∃ f ∈ fillers, said <:+: f.body) ∧ ∀ c ∈ blanks, isBlank c = true

section EndsInComment

variable {fillers : List Filler} {cs : List Char}

/-- What stands in front of a text does not change what the text ends in. -/
theorem EndsInComment.append_left (h : EndsInComment fillers cs) (front : List Char) :
    EndsInComment fillers (front ++ cs) := by
  obtain ⟨before, mark, said, blanks, rfl, hmark⟩ := h
  exact ⟨front ++ before, mark, said, blanks, by simp only [List.append_assoc], hmark⟩

/-- Blanks behind a text do not change what the text ends in. -/
theorem EndsInComment.append_blanks (h : EndsInComment fillers cs) {more : List Char}
    (hmore : ∀ c ∈ more, isBlank c = true) : EndsInComment fillers (cs ++ more) := by
  obtain ⟨before, mark, said, blanks, rfl, hblank, hmark, hsaid, hblanks⟩ := h
  refine ⟨before, mark, said, blanks ++ more, ?_, hblank, hmark, hsaid, ?_⟩
  · simp only [List.append_assoc]
  · exact List.forall_mem_append.mpr ⟨hblanks, hmore⟩

/-- What ends in one of some comments ends in one of more comments. -/
theorem EndsInComment.mono (h : EndsInComment fillers cs) {more : List Filler} (hsub : fillers ⊆ more) :
    EndsInComment more cs := by
  obtain ⟨before, mark, said, blanks, hcs, hblank, hmark, ⟨f, hf, hsaid⟩, hblanks⟩ := h
  exact ⟨before, mark, said, blanks, hcs, hblank, hmark, ⟨f, hsub hf, hsaid⟩, hblanks⟩

/-- An identifier does not reach into the blanks that a text ends with. -/
theorem Identifier.infix_of_append_blanks {name : Identifier} {cs blanks start behind : List Char}
    (h : cs ++ blanks = start ++ name.chars ++ behind) (hblanks : ∀ c ∈ blanks, isBlank c = true) :
    name.chars <:+: cs := by
  have hdisjoint (c : Char) (hblank : c ∈ blanks) : c ∉ name.chars := by
    intro hname
    have := hblanks c hblank
    rw [name.isBlank_eq_false hname] at this
    contradiction
  rcases List.append_eq_append_iff.mp h with ⟨more, hmore, hrest⟩ | ⟨rest, hcs, -⟩
  · rcases List.append_eq_append_iff.mp hmore with ⟨part, hcs, hname⟩ | ⟨part, -, hpart⟩
    · cases more with
      | nil => exact ⟨start, [], by rw [hcs, hname, List.append_nil, List.append_nil]⟩
      | cons c more =>
        refine absurd ?_ (hdisjoint c (by simp [hrest]))
        simp [hname]
    · obtain ⟨c, hc⟩ := List.exists_mem_of_ne_nil name.chars name.ne_nil
      exact absurd hc (hdisjoint c (by simp [hrest, hpart, hc]))
  · exact ⟨start, rest, hcs.symm⟩

/-- If a text that breaks off in a comment ends, but for blanks, with an identifier, then this identifier
occurs in a comment. -/
theorem EndsInComment.exists_infix {name : Identifier} {front ahead behind : List Char}
    (h : EndsInComment fillers (front ++ (ahead ++ name.chars ++ behind)))
    (hahead : ∀ c ∈ ahead, isBlank c = true) (hbehind : ∀ c ∈ behind, isBlank c = true) :
    ∃ f ∈ fillers, name.chars <:+: f.body := by
  obtain ⟨before, mark, said, blanks, heq, hblank, hmark, ⟨f, hf, hsaid⟩, hblanks⟩ := h
  have hnotmem : mark ∉ ahead ++ name.chars ++ behind := by
    simp only [List.mem_append, not_or]
    refine ⟨⟨fun hmem => ?_, name.not_mem_of_isIdentifierChar hmark⟩, fun hmem => ?_⟩
    · rw [hahead mark hmem] at hblank
      contradiction
    · rw [hbehind mark hmem] at hblank
      contradiction
  rw [List.append_assoc (before ++ [mark])] at heq
  obtain ⟨start, hend⟩ := exists_eq_append_of_not_mem heq.symm hnotmem
  have hinfix : name.chars <:+: said := by
    have hsplit : said ++ blanks = start ++ ahead ++ name.chars ++ behind := by
      rw [hend]
      simp only [List.append_assoc]
    exact Identifier.infix_of_append_blanks hsplit hblanks
  exact ⟨f, hf, hinfix.trans hsaid⟩

/-- A filler that is not blank is a comment, or white space that no identifier has. -/
theorem Filler.endsInComment {f : Filler} (h : ∃ c ∈ f.chars, isBlank c = false) :
    EndsInComment [f] f.chars := by
  cases f with
  | space c hspace =>
    have hblank : isBlank c = false := by simpa [chars] using h
    exact ⟨[], c, [], [], by simp [chars], hblank, by simp [isIdentifierChar, hspace], by simp, by simp⟩
  | block body =>
    exact ⟨['/', '*'] ++ body ++ ['*'], '/', [], [], by simp [chars], by decide, by decide, by simp,
      by simp⟩
  | line body =>
    exact ⟨['/'], '/', body, ['\n'], by simp [chars], by decide, by decide, by simp [Filler.body],
      List.forall_mem_singleton.mpr rfl⟩

/-- What stands between two tokens ends in a comment if it is not blank. -/
theorem endsInComment_gapChars {gap : List Filler} (h : ∃ c ∈ gapChars gap, isBlank c = false) :
    EndsInComment gap (gapChars gap) := by
  induction gap with
  | nil => simp [gapChars] at h
  | cons f rest ih =>
    have hchars : gapChars (f :: rest) = f.chars ++ gapChars rest := List.flatMap_cons
    rw [hchars]
    by_cases hrest : ∃ c ∈ gapChars rest, isBlank c = false
    · exact ((ih hrest).mono (List.subset_cons_self f rest)).append_left f.chars
    · have hblanks : ∀ c ∈ gapChars rest, isBlank c = true := by simpa using hrest
      have hf : ∃ c ∈ f.chars, isBlank c = false := by
        obtain ⟨c, hc, hblank⟩ := h
        rw [hchars, List.mem_append] at hc
        rcases hc with hc | hc
        · exact ⟨c, hc, hblank⟩
        · exact absurd ⟨c, hc, hblank⟩ hrest
      exact ((Filler.endsInComment hf).mono (by simp)).append_blanks hblanks

/-- Whether a text, if it has an angle bracket in it, breaks off in a comment in front of the first one. -/
def CutInComment (fillers : List Filler) (cs : List Char) : Prop :=
  '<' ∈ cs → EndsInComment fillers (cs.takeWhile (· != '<'))

/-- If two texts are cut in comments only, so are both in a row. -/
theorem cutInComment_append {xs ys : List Char} (hxs : CutInComment fillers xs)
    (hys : CutInComment fillers ys) : CutInComment fillers (xs ++ ys) := by
  intro hmem
  by_cases hfirst : '<' ∈ xs
  · rw [takeWhile_append_of_mem hfirst]
    exact hxs hfirst
  · rw [List.takeWhile_append_of_pos (ne_of_not_mem hfirst)]
    apply EndsInComment.append_left
    exact hys ((List.mem_append.mp hmem).resolve_left hfirst)

/-- A text without an angle bracket is not cut. -/
theorem cutInComment_of_not_mem (h : '<' ∉ cs) : CutInComment fillers cs := fun hmem => absurd hmem h

/-- If parts are cut in comments only, so is the text that they make up. -/
theorem cutInComment_flatMap {α : Type} {parts : List α} {chars : α → List Char}
    (h : ∀ part ∈ parts, CutInComment fillers (chars part)) :
    CutInComment fillers (parts.flatMap chars) := by
  induction parts with
  | nil => exact cutInComment_of_not_mem (by simp)
  | cons part rest ih =>
    rw [List.flatMap_cons]
    apply cutInComment_append
    · exact h part List.mem_cons_self
    · exact ih fun part hpart => h part (List.mem_cons_of_mem _ hpart)

/-- A filler is cut in itself, if at all. -/
theorem Filler.cutInComment {f : Filler} (hf : f ∈ fillers) : CutInComment fillers f.chars := by
  intro hmem
  cases f with
  | space c hspace =>
    obtain rfl : '<' = c := by simpa [chars] using hmem
    contradiction
  | block body =>
    have hbody : '<' ∈ ['/', '*'] ++ body := by simpa [chars] using hmem
    rw [chars, takeWhile_append_of_mem hbody]
    exact ⟨['/'], '*', body.takeWhile (· != '<'), [], by simp, by decide, by decide,
      ⟨_, hf, (List.takeWhile_prefix _).isInfix⟩, by simp⟩
  | line body =>
    have hbody : '<' ∈ ['/', '/'] ++ body := by simpa [chars] using hmem
    rw [chars, takeWhile_append_of_mem hbody]
    exact ⟨['/'], '/', body.takeWhile (· != '<'), [], by simp, by decide, by decide,
      ⟨_, hf, (List.takeWhile_prefix _).isInfix⟩, by simp⟩

end EndsInComment

namespace Reference

variable {r : Reference}

/-- The fillers around a qualifier are fillers of the reference. -/
theorem mem_fillers {q : Qualifier} {f : Filler} (hq : q ∈ r.qualifiers)
    (hf : f ∈ q.ahead ++ q.behind) : f ∈ r.fillers :=
  List.mem_append_left r.gap (List.mem_flatMap.mpr ⟨q, hq, hf⟩)

/-- In front of the type arguments, an angle bracket can stand in a comment only. -/
theorem bracket_mem_head_iff : '<' ∈ r.head ↔ ∃ f ∈ r.fillers, '<' ∈ f.body := by
  have hname (name : Identifier) : '<' ∉ name.chars := name.not_mem_of_isIdentifierChar (by decide)
  simp only [head, front, fillers, Qualifier.chars, gapChars, List.mem_append, List.mem_flatMap,
    List.mem_singleton, hname, Filler.bracket_mem_chars_iff]
  grind

/-- In front of the type arguments, a reference breaks off in a comment at the first angle bracket. -/
theorem cutInComment_head (r : Reference) : CutInComment r.fillers r.head := by
  have hname (name : Identifier) : CutInComment r.fillers name.chars :=
    cutInComment_of_not_mem (name.not_mem_of_isIdentifierChar (by decide))
  have hgap {gap : List Filler} (h : gap ⊆ r.fillers) : CutInComment r.fillers (gapChars gap) :=
    cutInComment_flatMap fun f hf => Filler.cutInComment (h hf)
  apply cutInComment_append
  · apply cutInComment_append
    · apply cutInComment_flatMap
      intro q hq
      apply cutInComment_append
      · apply cutInComment_append
        · apply cutInComment_append
          · exact hname q.identifier
          · exact hgap fun f hf => mem_fillers hq (List.mem_append_left q.behind hf)
        · exact cutInComment_of_not_mem (by decide)
      · exact hgap fun f hf => mem_fillers hq (List.mem_append_right q.ahead hf)
    · exact hname r.last
  · exact hgap (List.subset_append_right _ _)

/-- What stands in front of the first angle bracket of a reference. -/
theorem takeWhile_typeRef (h : '<' ∉ r.head) :
    r.typeRef.text.toList.takeWhile (· != '<') = r.head := by
  rw [typeRef, String.toList_ofList, List.takeWhile_append_of_pos (ne_of_not_mem h)]
  cases harguments : r.arguments with
  | none => simp [argumentChars, harguments]
  | some arguments => simp [argumentChars, harguments]

/-- If only blanks stand behind it, the last identifier is in the last segment. -/
theorem lastSegment_head (hgap : ∀ c ∈ gapChars r.gap, isBlank c = true) :
    TypeRef.lastSegment r.head =
      TypeRef.lastSegment r.front ++ r.last.chars ++ gapChars r.gap := by
  obtain ⟨start, hfront, hends, hdot⟩ := TypeRef.exists_eq_append_lastSegment r.front
  have hname : '.' ∉ r.last.chars := r.last.not_mem_of_isIdentifierChar (by decide)
  have hblank : '.' ∉ gapChars r.gap := fun hmem => absurd (hgap '.' hmem) (by decide)
  conv_lhs => rw [head, hfront]
  rw [List.append_assoc start, List.append_assoc start]
  apply TypeRef.lastSegment_append hends
  simp only [List.mem_append, hdot, hname, hblank, or_self, not_false_eq_true]

/-- The name read off a reference is its last identifier if that can be cut out. -/
theorem ReadsThrough.simpleName_eq (h : r.ReadsThrough) :
    r.typeRef.simpleName.toList = r.last.chars := by
  have hbracket : '<' ∉ r.head := by
    rw [bracket_mem_head_iff]
    rintro ⟨f, hf, hmem⟩
    exact h.bracketless f hf hmem
  rw [TypeRef.toList_simpleName, takeWhile_typeRef hbracket, lastSegment_head h.gap,
    trimWhere_append h.front h.gap, trimWhere_eq_self_iff]
  exact r.last.hasBareEnds

/-- If the name read off a reference is its last identifier, and this occurs in no comment, then it can be
cut out. -/
theorem readsThrough_of_simpleName_eq (hunsaid : r.Unsaid)
    (h : r.typeRef.simpleName.toList = r.last.chars) : r.ReadsThrough := by
  rw [TypeRef.toList_simpleName, trimWhere_eq_iff] at h
  obtain ⟨-, ahead, behind, hsegment, hahead, hbehind⟩ := h
  -- what is cut out does not end in a comment, as the identifier would occur in it
  have hcut : ¬EndsInComment r.fillers (r.typeRef.text.toList.takeWhile (· != '<')) := by
    intro hends
    obtain ⟨start, hstart, -⟩ :=
      TypeRef.exists_eq_append_lastSegment (r.typeRef.text.toList.takeWhile (· != '<'))
    rw [hstart, hsegment] at hends
    obtain ⟨f, hf, hsaid⟩ := hends.exists_infix hahead hbehind
    exact hunsaid f hf hsaid
  have hbracket : '<' ∉ r.head := by
    intro hmem
    apply hcut
    rw [typeRef, String.toList_ofList, takeWhile_append_of_mem hmem]
    exact cutInComment_head r hmem
  rw [takeWhile_typeRef hbracket] at hsegment hcut
  have hgap : ∀ c ∈ gapChars r.gap, isBlank c = true := by
    by_contra hnot
    apply hcut
    have hmark : ∃ c ∈ gapChars r.gap, isBlank c = false := by simpa using hnot
    exact ((endsInComment_gapChars hmark).mono (List.subset_append_right _ _)).append_left _
  refine ⟨?_, ?_, hgap⟩
  · intro f hf hmem
    exact hbracket (bracket_mem_head_iff.mpr ⟨f, hf, hmem⟩)
  · -- apart from blanks, there is room for the identifier only
    rw [lastSegment_head hgap] at hsegment
    have hcount := congrArg (List.countP fun c => !isBlank c) hsegment
    have hzero {blanks : List Char} (h : ∀ c ∈ blanks, isBlank c = true) :
        blanks.countP (fun c => !isBlank c) = 0 := by
      rw [List.countP_eq_zero]
      simpa using h
    simp only [List.countP_append, hzero hgap, hzero hahead, hzero hbehind] at hcount
    have hfront : (TypeRef.lastSegment r.front).countP (fun c => !isBlank c) = 0 := by omega
    rw [List.countP_eq_zero] at hfront
    simpa using hfront

/-- With blanks alone between its tokens, the last identifier of a reference can be cut out. -/
theorem readsThrough_of_blank (h : ∀ f ∈ r.fillers, ∀ c ∈ f.chars, isBlank c = true) :
    r.ReadsThrough := by
  refine ⟨?_, ?_, ?_⟩
  · intro f hf hmem
    exact absurd (h f hf '<' ((Filler.bracket_mem_chars_iff f).mpr hmem)) (by decide)
  · rcases List.eq_nil_or_concat r.qualifiers with hnil | ⟨before, q, hconcat⟩
    · have hfront : r.front = [] := by rw [front, hnil, List.flatMap_nil]
      rw [hfront]
      simp [TypeRef.lastSegment]
    · have hbehind : ∀ c ∈ gapChars q.behind, isBlank c = true := by
        intro c hc
        obtain ⟨f, hf, hchar⟩ := List.mem_flatMap.mp hc
        exact h f (mem_fillers (by simp [hconcat]) (List.mem_append_right q.ahead hf)) c hchar
      have hfront : r.front = before.flatMap Qualifier.chars ++
          (q.identifier.chars ++ gapChars q.ahead ++ ['.']) ++ gapChars q.behind := by
        simp [front, hconcat, Qualifier.chars]
      have hends : TypeRef.EndsSegment (before.flatMap Qualifier.chars ++
          (q.identifier.chars ++ gapChars q.ahead ++ ['.'])) :=
        Or.inr ⟨_, (List.append_assoc _ _ _).symm⟩
      rw [hfront, TypeRef.lastSegment_append hends]
      · exact hbehind
      · exact fun hmem => absurd (hbehind '.' hmem) (by decide)
  · intro c hc
    obtain ⟨f, hf, hchar⟩ := List.mem_flatMap.mp hc
    exact h f (List.mem_append_right _ hf) c hchar

/-- The names of the classes that a class extends are the last identifiers of the references in its heading,
whatever the formatting, as far as these can be cut out: so it is with blanks alone between the tokens. A
name that is read is not the last identifier if this cannot be cut out, unless it occurs in a comment. -/
theorem extendsNamed_iff_last {k : Class} {references : List Reference}
    (hbases : k.bases = references.map typeRef) :
    (∀ r ∈ references, r.Unsaid → (r.typeRef.simpleName = r.last.text ↔ r.ReadsThrough)) ∧
      (∀ r ∈ references, (∀ f ∈ r.fillers, ∀ c ∈ f.chars, isBlank c = true) → r.ReadsThrough) ∧
      ((∀ r ∈ references, r.ReadsThrough) →
        ∀ name, k.extendsNamed name = true ↔ ∃ r ∈ references, r.last.text = name) := by
  have hread (r : Reference) (h : r.ReadsThrough) : r.typeRef.simpleName = r.last.text := by
    rw [← String.toList_inj, Identifier.text, String.toList_ofList]
    exact h.simpleName_eq
  refine ⟨?_, fun r _ => readsThrough_of_blank, ?_⟩
  · intro r _ hunsaid
    refine ⟨fun h => readsThrough_of_simpleName_eq hunsaid ?_, hread r⟩
    rw [h, Identifier.text, String.toList_ofList]
  · intro hall name
    simp only [Class.extendsNamed, hbases, List.any_map, List.any_eq_true, Function.comp_apply,
      decide_eq_true_eq]
    refine exists_congr fun r => and_congr_right fun hr => ?_
    rw [hread r (hall r hr)]

/-- White space around the full stop and in front of type arguments does no harm, and a comment behind the
full stop does. -/
theorem extendsNamed_iff_last_commented :
    let errors : Identifier := ⟨"errors".toList, by decide, List.all_eq_true.mp (by decide)⟩
    let base : Identifier := ⟨"DomainError".toList, by decide, List.all_eq_true.mp (by decide)⟩
    let blank : Filler := .space ' ' (by decide)
    let spaced : Reference := ⟨[⟨errors, [blank], [.space '\n' (by decide)]⟩], base,
      some ⟨[blank], "x.Y<z>".toList⟩⟩
    let commented : Reference := ⟨[⟨errors, [], [.block " the base ".toList]⟩], base, none⟩
    let k : Class := ⟨"NotFoundError", 1, false, [spaced.typeRef, commented.typeRef], []⟩
    spaced.typeRef.text = "errors .\nDomainError <x.Y<z>>" ∧
      commented.typeRef.text = "errors./* the base */DomainError" ∧
      spaced.typeRef.simpleName = "DomainError" ∧ commented.typeRef.simpleName ≠ "DomainError" ∧
      Class.extendsNamed { k with bases := [spaced.typeRef] } "DomainError" = true := by
  intro errors base blank spaced commented k
  have hbases : k.bases = [spaced, commented].map typeRef := rfl
  obtain ⟨hiff, hblank, -⟩ := extendsNamed_iff_last hbases
  have hspaced : spaced.ReadsThrough := by
    have hchars : (spaced.fillers.flatMap Filler.chars).all isBlank = true := by decide
    exact hblank spaced (by simp) fun f hf c hc =>
      List.all_eq_true.mp hchars c (List.mem_flatMap.mpr ⟨f, hf, hc⟩)
  have hunsaid : spaced.Unsaid ∧ commented.Unsaid := by
    unfold Unsaid
    decide
  have hcommented : ¬commented.ReadsThrough :=
    fun h => absurd (h.front '/' (by decide)) (by decide)
  refine ⟨by decide, by decide, ?_, ?_, ?_⟩
  · exact (hiff spaced (by simp) hunsaid.1).mpr hspaced
  · exact fun h => hcommented ((hiff commented (by simp) hunsaid.2).mp h)
  · have hone : { k with bases := [spaced.typeRef] }.bases = [spaced].map typeRef := rfl
    rw [(extendsNamed_iff_last hone).2.2 (by simpa using hspaced)]
    exact ⟨spaced, by simp, by decide⟩

end Reference

end LayerAudit
