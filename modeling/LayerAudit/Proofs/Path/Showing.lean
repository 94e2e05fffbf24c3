import LayerAudit.Proofs.Path.Resolution

/-!
# How a path is shown

A path below a base is shown without the base, and any other path in full. Main statement: taken from the
base, what is shown of a path from the top leads back to that path, whether it lies below the base or not.
So two paths from the top that mean different components are never shown alike.

Nothing is resolved on the way: two dots that stand in a path are shown and read back as they are. The
base may be any path. Of a path that does not start at the top, a dot at its start is not shown, and the
way back may lead elsewhere.
-/

namespace LayerAudit.Path

variable {base p : Path} {lead inner rest : List Component}

/-- How a path is shown depends on what it means. -/
theorem relativeTo_congr {p q : Path} (h : p.components = q.components) (base : Path) :
    p.relativeTo base = q.relativeTo base := by
  rw [relativeTo, relativeTo, below?, below?, h]

/-- Components that start at the top or with one between slashes are shown by their plainest text. -/
theorem display_eq_text (hlead : IsStart lead) (hinner : ∀ c ∈ inner, c.IsInner) :
    display (lead ++ inner) = (ofComponents (lead ++ inner)).text := by
  have hshown : inner.filter (fun c => c != .root && c != .current) = inner := by
    rw [List.filter_eq_self]
    intro c hc
    rcases (hinner c hc).eq_parent_or_name with rfl | ⟨text, rfl⟩ <;> rfl
  rcases hlead with rfl | rfl
  · have hroot := head?_ne_root hinner
    rw [List.nil_append, display, hshown, if_neg hroot, ofComponents]
    rintro others rfl
    exact hroot rfl
  · rw [List.singleton_append, display, List.filter_cons_of_neg (by decide), hshown]
    rfl

/-- What is shown of such components means them. -/
theorem components_display (hlead : IsStart lead) (hinner : ∀ c ∈ inner, c.IsInner) :
    (⟨display (lead ++ inner)⟩ : Path).components = lead ++ inner := by
  rw [display_eq_text hlead hinner]
  exact components_ofComponents ⟨lead, inner, hlead.imp_right Or.inl, hinner, rfl⟩

/-- What can stand between slashes is put behind a base by what is shown of it. -/
theorem components_join_display (hbase : base.text ≠ "") (hrest : ∀ c ∈ rest, c.IsInner) :
    (base.join ⟨display rest⟩).components = base.components ++ rest := by
  have hlead : IsStart [] := Or.inl rfl
  have hshown := display_eq_text hlead hrest
  have hmeant := components_display hlead hrest
  rw [List.nil_append] at hshown hmeant
  have hrelative : isAbsolute ⟨display rest⟩ = false := by
    rw [isAbsolute, hmeant]
    exact decide_eq_false (head?_ne_root hrest)
  rw [components_join hbase hrelative, hshown,
    toList_ofComponents_of_ne_root (head?_ne_root hrest), innerOf_joined hrest]

/-- What is left of a path from the top below a base that is not empty can stand between slashes. -/
theorem isInner_of_below? (hp : p.isAbsolute = true) (hbase : base.components ≠ [])
    (hbelow : p.below? base = some rest) : ∀ c ∈ rest, c.IsInner := by
  obtain ⟨first, others, hfirst⟩ := List.exists_cons_of_ne_nil hbase
  have hparts := below?_eq_some_iff.mp hbelow
  rw [components_of_isAbsolute hp, hfirst, List.cons_append, List.cons.injEq] at hparts
  intro c hc
  exact isInner_of_mem_innerOf (hparts.2 ▸ List.mem_append_right _ hc)

/-- What is shown of a path from the top leads from the base back to the path. -/
theorem components_join_relativeTo (hp : p.isAbsolute = true) :
    (base.join ⟨p.relativeTo base⟩).components = p.components := by
  -- shown in full, a path from the top is taken for itself, whatever the base
  have hfull : (base.join ⟨display p.components⟩).components = p.components := by
    have hmeant : (⟨display p.components⟩ : Path).components = p.components := by
      rw [components_of_isAbsolute hp, ← List.singleton_append]
      exact components_display (Or.inr rfl) fun _ hc => isInner_of_mem_innerOf hc
    have habsolute : isAbsolute ⟨display p.components⟩ = true := by
      rw [isAbsolute, hmeant]
      exact hp
    rw [join, if_pos habsolute, hmeant]
  rw [relativeTo]
  cases hbelow : p.below? base with
  | none => exact hfull
  | some rest =>
    have hparts := below?_eq_some_iff.mp hbelow
    by_cases hempty : base.components = []
    · rw [hempty, List.nil_append] at hparts
      rw [Option.getD_some, ← hparts]
      exact hfull
    · have hbase : base.text ≠ "" := by
        intro htext
        refine hempty ?_
        rw [components, htext]
        rfl
      rw [Option.getD_some, components_join_display hbase (isInner_of_below? hp hempty hbelow), hparts]

/-- What is shown of a path from the top to those who know a base leads from that base back to the path.
So it tells the path from every other path from the top. -/
theorem shown_path_leads_back {p : Path} (base : Path) (hp : p.isAbsolute = true) :
    (base.join ⟨p.relativeTo base⟩).components = p.components ∧
      ∀ q : Path, q.isAbsolute = true →
        (q.relativeTo base = p.relativeTo base ↔ q.components = p.components) := by
  have hback (q : Path) (hq : q.isAbsolute = true) :
      (base.join ⟨q.relativeTo base⟩).components = q.components := components_join_relativeTo hq
  refine ⟨hback p hp, fun q hq => ⟨fun heq => ?_, fun heq => ?_⟩⟩
  · rw [← hback q hq, heq, hback p hp]
  · exact relativeTo_congr heq base

/-- A path beside a base whose name only begins like the base's is shown in full, dots included. -/
theorem shown_path_leads_back_beside :
    let base : Path := ⟨"/project/src"⟩
    let p : Path := ⟨"/project/src-old//./../src/a.ts"⟩
    p.isAbsolute = true ∧ p.relativeTo base = "/project/src-old/../src/a.ts" ∧
      (base.join ⟨p.relativeTo base⟩).components = p.components ∧
      ∀ q : Path, q.isAbsolute = true →
        (q.relativeTo base = p.relativeTo base ↔ q.components = p.components) := by
  intro base p
  have hp : p.isAbsolute = true := by decide
  obtain ⟨hback, htells⟩ := shown_path_leads_back base hp
  exact ⟨hp, by decide, hback, htells⟩

end LayerAudit.Path
