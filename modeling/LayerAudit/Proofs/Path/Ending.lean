import LayerAudit.Proofs.Path.Resolution

/-!
# Paths with something written behind them

An import names a module without the ending of its file, so the path of the file is the path of the
module with an ending written behind it. Written behind a path without dots, the ending `.ts` becomes
part of the last name, and `/index.ts` becomes a name of its own.
-/

namespace LayerAudit.Path

/-- What is written behind components is written behind the last of them. -/
theorem joined_concat {c d : Component} {ending : List Char} (cs : List Component)
    (h : d.text.toList = c.text.toList ++ ending) :
    joined (cs ++ [c]) ++ ending = joined (cs ++ [d]) := by
  induction cs with
  | nil => rw [List.nil_append, List.nil_append, joined_singleton, joined_singleton, h]
  | cons first rest ih =>
    rw [List.cons_append, joined_cons first (by simp), List.append_assoc, List.cons_append, ih,
      List.cons_append, joined_cons first (by simp)]

/-- The plainest text of components that start at the top or nowhere. -/
theorem toList_ofComponents {lead inner : List Component} (hlead : IsStart lead)
    (hinner : ∀ c ∈ inner, c.IsInner) :
    (ofComponents (lead ++ inner)).text.toList = (lead.map fun _ => '/') ++ joined inner := by
  rcases hlead with rfl | rfl
  · exact toList_ofComponents_of_ne_root (head?_ne_root hinner)
  · exact toList_ofComponents_root inner

/-- A longer name is a name that can stand between two slashes. -/
theorem isInner_name_append (text ending : String) (htext : '/' ∉ text.toList)
    (hending : '/' ∉ ending.toList) (hlength : 3 ≤ ending.toList.length) :
    (Component.name (text ++ ending)).IsInner := by
  have hchars : (Component.name (text ++ ending)).text.toList = text.toList ++ ending.toList :=
    String.toList_append
  have hlong (piece : List Char) (hpiece : piece.length < 3) :
      text.toList ++ ending.toList ≠ piece := by
    intro heq
    have := congrArg List.length heq
    rw [List.length_append] at this
    omega
  constructor
  · rw [hchars, List.mem_append, not_or]
    exact ⟨htext, hending⟩
  · rw [hchars, Component.ofSegment?, if_neg, if_neg (hlong _ (by decide)), ← hchars,
      String.ofList_toList]
    · rfl
    · rintro (heq | heq)
      · exact hlong [] (by decide) heq
      · exact hlong ['.'] (by decide) heq

/-- Behind the start of a path, an ending is a name. -/
theorem components_start_append {lead : List Component} (hlead : IsStart lead) {ending : String}
    (hending : (Component.name ending).IsInner) :
    (⟨(ofComponents lead).text ++ ending⟩ : Path).components = lead ++ [.name ending] := by
  have hinner : ∀ c ∈ [Component.name ending], c.IsInner := by simpa using hending
  have htext : (ofComponents lead).text ++ ending =
      (ofComponents (lead ++ [.name ending])).text := by
    have hstart : (ofComponents (lead ++ [])).text.toList =
        (lead.map fun _ => '/') ++ joined [] :=
      toList_ofComponents hlead fun _ hc => absurd hc List.not_mem_nil
    rw [List.append_nil] at hstart
    rw [← String.toList_inj, String.toList_append, hstart, toList_ofComponents hlead hinner,
      joined_singleton, List.append_assoc]
    rfl
  rw [htext]
  exact components_ofComponents ⟨lead, _, hlead.imp_right Or.inl, hinner, rfl⟩

/-- Behind further components, an ending becomes part of the last of them. -/
theorem components_concat_append {lead front : List Component} {c : Component} {ending : String}
    (hlead : IsStart lead) (hfront : ∀ d ∈ front ++ [c], d.IsInner)
    (hname : (Component.name (c.text ++ ending)).IsInner) :
    (⟨(ofComponents (lead ++ (front ++ [c]))).text ++ ending⟩ : Path).components =
      lead ++ (front ++ [.name (c.text ++ ending)]) := by
  have hinner : ∀ d ∈ front ++ [.name (c.text ++ ending)], Component.IsInner d := by
    intro d hd
    rcases List.mem_append.mp hd with hd | hd
    · exact hfront d (List.mem_append_left _ hd)
    · exact List.mem_singleton.mp hd ▸ hname
  have htext : (ofComponents (lead ++ (front ++ [c]))).text ++ ending =
      (ofComponents (lead ++ (front ++ [.name (c.text ++ ending)]))).text := by
    rw [← String.toList_inj, String.toList_append, toList_ofComponents hlead hfront,
      toList_ofComponents hlead hinner, List.append_assoc]
    exact congrArg _ (joined_concat front String.toList_append)
  rw [htext]
  exact components_ofComponents ⟨lead, _, hlead.imp_right Or.inl, hinner, rfl⟩

/-- Two dots come last in a resolved path only if nothing comes before them but the start. -/
theorem eq_nil_of_parent_last {p : Place} {front : List Component}
    (h : p.components = front ++ [.parent]) : front = [] := by
  rw [Place.components_eq] at h
  rcases List.eq_nil_or_concat p.names.reverse with hnil | ⟨names, name, hname⟩
  · rw [hnil, List.map_nil, List.append_nil] at h
    cases front with
    | nil => rfl
    | cons d front => split at h <;> simp at h
  · rw [hname, List.concat_eq_append, List.map_append, ← List.append_assoc] at h
    exact absurd (List.append_inj_right' h rfl) (by simp)

/-- Behind a path without dots, an ending becomes part of the last name, or a name of its own where
there is none. -/
theorem components_normalize_append (p : Path) (ending : String) (hending : '/' ∉ ending.toList)
    (hlength : 3 ≤ ending.toList.length) :
    ∃ front text,
      (⟨p.normalize.text ++ ending⟩ : Path).components = front ++ [.name (text ++ ending)] ∧
        (IsStart front ∨ ∃ last, p.normalize.components = front ++ [.name last]) := by
  obtain ⟨lead, walked, hlead, hwalked, heq⟩ := resolved_resolve (canonical_components p)
  have hinner : ∀ c ∈ (Place.start.walk walked).components, c.IsInner := fun c hc =>
    Place.isInner_of_mem_components hwalked hc
  rw [components_normalize, normalize, heq]
  rcases List.eq_nil_or_concat (Place.start.walk walked).components with
    hempty | ⟨front, c, hconcat⟩
  · rw [hempty, List.append_nil]
    have hname := isInner_name_append "" ending List.not_mem_nil hending hlength
    refine ⟨lead, "", ?_, Or.inl hlead⟩
    rw [String.empty_append] at hname ⊢
    exact components_start_append hlead hname
  · rw [List.concat_eq_append] at hconcat
    rw [hconcat] at hinner ⊢
    have hc : c.IsInner := hinner c (List.mem_append_right _ List.mem_cons_self)
    refine ⟨lead ++ front, c.text, ?_, ?_⟩
    · rw [List.append_assoc]
      exact components_concat_append hlead hinner (isInner_name_append _ _ hc.1 hending hlength)
    · rcases hc.eq_parent_or_name with rfl | ⟨last, rfl⟩
      · rw [eq_nil_of_parent_last hconcat, List.append_nil]
        exact Or.inl hlead
      · exact Or.inr ⟨last, (List.append_assoc _ _ _).symm⟩

end LayerAudit.Path
