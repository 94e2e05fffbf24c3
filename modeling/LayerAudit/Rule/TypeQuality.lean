import LayerAudit.Cache

/-!
# Annotations that say nothing

A file should not annotate anything with the type that allows everything. The scan reads the text,
not the syntax: an annotation is a colon, blanks, the type's name, and a blank, a semicolon, a comma
or a closing parenthesis.
-/

namespace LayerAudit.Rule.TypeQuality

/-- Whether a character ends an annotation. -/
def isTerminator (c : Char) : Bool := Text.isBlank c || c = ';' || c = ',' || c = ')'

/-- What follows an annotation whose colon has been read; none if there is no annotation. -/
def annotationEnd? (cs : List Char) : Option (List Char) :=
  match cs.dropWhile Text.isBlank with
  | 'a' :: 'n' :: 'y' :: c :: rest => if isTerminator c then some rest else none
  | _ => none

/-- An annotation takes at least one character. -/
theorem length_annotationEnd?_lt {cs rest : List Char} (h : annotationEnd? cs = some rest) :
    rest.length < cs.length := by
  unfold annotationEnd? at h
  split at h
  next c r heq =>
    split at h
    · obtain rfl : r = rest := Option.some.inj h
      have hle := (List.dropWhile_sublist Text.isBlank (l := cs)).length_le
      rw [heq] at hle
      simp only [List.length_cons] at hle
      omega
    · exact absurd h (by simp)
  · exact absurd h (by simp)

/-- The number of annotations in a text, each of which is read before the next is looked for. -/
def countAnnotations (cs : List Char) : Nat :=
  match cs with
  | [] => 0
  | c :: rest =>
    if c = ':' then
      match h : annotationEnd? rest with
      | some after => countAnnotations after + 1
      | none => countAnnotations rest
    else countAnnotations rest
  termination_by cs.length
  decreasing_by
    · have := length_annotationEnd?_lt h
      simp only [List.length_cons]
      omega
    · simp
    · simp

/-- The finding about a file. -/
def fileFindings (file : SourceFile) : List Finding :=
  match countAnnotations file.content.toList with
  | 0 => []
  | n + 1 =>
    [⟨file.path, none, .anyType,
      "Found " ++ toString (n + 1) ++
        " 'any' type annotation(s); use a specific type or 'unknown'"⟩]

/-- The findings about files. -/
def findings (files : List SourceFile) : List Finding := files.flatMap fileFindings

end LayerAudit.Rule.TypeQuality
