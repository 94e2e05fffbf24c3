import LayerAudit.Path.Basic

/-!
# What a written path means

The components of a path are read off the pieces of its text between slashes, after what it starts
with: a slash, a single dot, or neither. Such lists are called canonical here. The plainest text of
a canonical list means that list again, and a path taken from another one means the components of
the first, followed by those of the second. Later modules work with components and never look at
the text of a path.
-/

namespace LayerAudit

namespace Component

/-- Whether a component can stand between two slashes. -/
def IsInner (c : Component) : Prop :=
  '/' ∉ c.text.toList ∧ ofSegment? c.text.toList = some c

instance (c : Component) : Decidable c.IsInner := inferInstanceAs (Decidable (_ ∧ _))

/-- A piece without slashes that stands for a component is that component's text. -/
theorem text_of_ofSegment? {segment : List Char} {c : Component}
    (h : ofSegment? segment = some c) : c.text.toList = segment := by
  unfold ofSegment? at h
  split at h
  · contradiction
  · split at h
    next hdots =>
      obtain rfl := Option.some.inj h
      rw [hdots]
      rfl
    next =>
      obtain rfl := Option.some.inj h
      exact String.toList_ofList

/-- What stands for a piece without slashes can stand between two slashes. -/
theorem isInner_of_ofSegment? {segment : List Char} {c : Component} (hslash : '/' ∉ segment)
    (h : ofSegment? segment = some c) : c.IsInner := by
  have htext := text_of_ofSegment? h
  exact ⟨htext ▸ hslash, htext ▸ h⟩

/-- Neither nothing nor a single dot is the text of an inner component. -/
theorem IsInner.text_ne {c : Component} (h : c.IsInner) :
    c.text.toList ≠ [] ∧ c.text.toList ≠ ['.'] := by
  constructor <;> intro heq <;> have hsome := h.2 <;> rw [heq] at hsome <;> contradiction

/-- An inner component is two dots or a name. -/
theorem IsInner.eq_parent_or_name {c : Component} (h : c.IsInner) :
    c = parent ∨ ∃ text, c = name text := by
  cases c with
  | root => exact absurd h (by decide)
  | current => exact absurd h (by decide)
  | parent => exact Or.inl rfl
  | name text => exact Or.inr ⟨text, rfl⟩

end Component

namespace Path

/-- There is always at least one piece. -/
theorem segments_ne_nil (cs : List Char) : segments cs ≠ [] := by
  cases cs with
  | nil => simp [segments]
  | cons c rest =>
    rw [segments]
    split
    · exact List.cons_ne_nil _ _
    · split <;> exact List.cons_ne_nil _ _

/-- A text splits at each of its slashes. -/
theorem segments_append_slash (as bs : List Char) :
    segments (as ++ '/' :: bs) = segments as ++ segments bs := by
  induction as with
  | nil => simp [segments]
  | cons a as ih =>
    obtain ⟨segment, others, hsegments⟩ := List.exists_cons_of_ne_nil (segments_ne_nil as)
    simp only [List.cons_append, segments, ih, hsegments]
    split <;> rfl

/-- A text without slashes is one piece. -/
theorem segments_of_not_mem {cs : List Char} (h : '/' ∉ cs) : segments cs = [cs] := by
  induction cs with
  | nil => rfl
  | cons c cs ih =>
    simp only [List.mem_cons, not_or] at h
    obtain ⟨hc, hcs⟩ := h
    rw [segments, if_neg (Ne.symm hc), ih hcs]

/-- No piece holds a slash. -/
theorem not_mem_of_mem_segments {cs segment : List Char} (h : segment ∈ segments cs) :
    '/' ∉ segment := by
  induction cs generalizing segment with
  | nil => simp_all [segments]
  | cons c cs ih =>
    obtain ⟨first, others, hsegments⟩ := List.exists_cons_of_ne_nil (segments_ne_nil cs)
    simp only [hsegments, List.mem_cons] at ih
    rw [segments] at h
    split at h
    · rcases List.mem_cons.mp h with rfl | hrest
      · exact List.not_mem_nil
      · exact ih (List.mem_cons.mp (hsegments ▸ hrest))
    next hc =>
      rw [hsegments] at h
      rcases List.mem_cons.mp h with rfl | hrest
      · simpa only [List.mem_cons, not_or] using ⟨Ne.symm hc, ih (Or.inl rfl)⟩
      · exact ih (Or.inr hrest)

/-- The components that the pieces of a text stand for. -/
def innerOf (cs : List Char) : List Component := (segments cs).filterMap Component.ofSegment?

/-- What a text starts with: a slash, a single dot, or neither. -/
def leadOf (cs : List Char) : List Component :=
  if cs.head? = some '/' then [.root]
  else if (segments cs).head? = some ['.'] then [.current]
  else []

/-- The components of a text are what it starts with and what its pieces stand for. -/
theorem componentsOf_eq (cs : List Char) : componentsOf cs = leadOf cs ++ innerOf cs := by
  unfold componentsOf
  split
  next rest => simp [leadOf, innerOf, segments, Component.ofSegment?]
  next hslash =>
    have hhead : cs.head? ≠ some '/' := by
      intro h
      obtain ⟨rest, rfl⟩ := List.head?_eq_some_iff.mp h
      exact hslash rest rfl
    rw [leadOf, if_neg hhead, innerOf]
    split
    next rest hdot => simp [hdot, Component.ofSegment?]
    next hdot =>
      have hfirst : (segments cs).head? ≠ some ['.'] := by
        intro h
        obtain ⟨rest, hsegments⟩ := List.head?_eq_some_iff.mp h
        exact hdot rest hsegments
      rw [if_neg hfirst, List.nil_append]

/-- Inner components are those of the pieces on both sides of a slash. -/
theorem innerOf_append_slash (as bs : List Char) :
    innerOf (as ++ '/' :: bs) = innerOf as ++ innerOf bs := by
  rw [innerOf, segments_append_slash, List.filterMap_append]
  rfl

/-- What comes behind a slash does not change what a text starts with. -/
theorem leadOf_append_slash {as : List Char} (h : as ≠ []) (bs : List Char) :
    leadOf (as ++ '/' :: bs) = leadOf as := by
  obtain ⟨a, as, rfl⟩ := List.exists_cons_of_ne_nil h
  obtain ⟨first, others, hsegments⟩ := List.exists_cons_of_ne_nil (segments_ne_nil (a :: as))
  rw [leadOf, leadOf, segments_append_slash, hsegments]
  rfl

/-- Whatever pieces stand for can stand between slashes. -/
theorem isInner_of_mem_innerOf {cs : List Char} {c : Component} (h : c ∈ innerOf cs) :
    c.IsInner := by
  obtain ⟨segment, hsegment, hc⟩ := List.mem_filterMap.mp h
  exact Component.isInner_of_ofSegment? (not_mem_of_mem_segments hsegment) hc

/-- What a text starts with is a slash, a single dot or neither. -/
theorem leadOf_cases (cs : List Char) :
    leadOf cs = [] ∨ leadOf cs = [.root] ∨ leadOf cs = [.current] := by
  unfold leadOf
  split
  · exact Or.inr (Or.inl rfl)
  · split
    · exact Or.inr (Or.inr rfl)
    · exact Or.inl rfl

/-- Lists of components that some text means. -/
def Canonical (cs : List Component) : Prop :=
  ∃ lead inner, (lead = [] ∨ lead = [.root] ∨ lead = [.current]) ∧
    (∀ c ∈ inner, Component.IsInner c) ∧ cs = lead ++ inner

/-- What a path means is canonical. -/
theorem canonical_components (p : Path) : Canonical p.components :=
  ⟨leadOf p.text.toList, innerOf p.text.toList, leadOf_cases _,
    fun _ hc => isInner_of_mem_innerOf hc, componentsOf_eq _⟩

/-- The characters of components with slashes between them. -/
def joined (cs : List Component) : List Char := ['/'].intercalate (cs.map (·.text.toList))

/-- A component is written in front of others with a slash behind it. -/
theorem joined_cons {cs : List Component} (c : Component) (h : cs ≠ []) :
    joined (c :: cs) = c.text.toList ++ '/' :: joined cs := by
  rw [joined, List.map_cons, List.intercalate_cons_of_ne_nil (by simpa using h), joined]
  simp

/-- A single component is written as it is. -/
theorem joined_singleton (c : Component) : joined [c] = c.text.toList := by
  simp [joined]

/-- The plainest text of components that start at the top has a slash in front. -/
theorem toList_ofComponents_root (cs : List Component) :
    (ofComponents (.root :: cs)).text.toList = '/' :: joined cs := by
  simp [ofComponents, joined, Function.comp_def]

/-- The plainest text of other components has slashes between them only. -/
theorem toList_ofComponents_of_ne_root {cs : List Component} (h : cs.head? ≠ some .root) :
    (ofComponents cs).text.toList = joined cs := by
  unfold ofComponents
  split
  · exact absurd rfl h
  · simp [joined, Function.comp_def]

/-- Inner components are read back from their characters. -/
theorem innerOf_joined {cs : List Component} (h : ∀ c ∈ cs, c.IsInner) :
    innerOf (joined cs) = cs := by
  induction cs with
  | nil => rfl
  | cons c cs ih =>
    obtain ⟨hslash, hsegment⟩ := h c List.mem_cons_self
    have hc : innerOf c.text.toList = [c] := by
      rw [innerOf, segments_of_not_mem hslash, List.filterMap_cons_some hsegment]
      rfl
    cases cs with
    | nil => rw [joined_singleton, hc]
    | cons d cs =>
      rw [joined_cons c (List.cons_ne_nil d cs), innerOf_append_slash, hc,
        ih fun e he => h e (List.mem_cons_of_mem _ he)]
      rfl

/-- Inner components start with neither a slash nor a single dot. -/
theorem leadOf_joined {cs : List Component} (h : ∀ c ∈ cs, c.IsInner) :
    leadOf (joined cs) = [] := by
  cases cs with
  | nil => rfl
  | cons c cs =>
    have hc := h c List.mem_cons_self
    have hfirst : leadOf c.text.toList = [] := by
      have hhead : c.text.toList.head? ≠ some '/' := fun heq => hc.1 (List.mem_of_mem_head? heq)
      rw [leadOf, if_neg hhead, segments_of_not_mem hc.1, if_neg]
      simpa using hc.text_ne.2
    cases cs with
    | nil => rw [joined_singleton, hfirst]
    | cons d cs =>
      rw [joined_cons c (List.cons_ne_nil d cs), leadOf_append_slash hc.text_ne.1, hfirst]

/-- What can stand between slashes does not start at the top. -/
theorem head?_ne_root {cs : List Component} (h : ∀ c ∈ cs, c.IsInner) : cs.head? ≠ some .root :=
  fun heq => absurd (h .root (List.mem_of_mem_head? heq)) (by decide)

/-- The plainest text of canonical components means them. -/
theorem components_ofComponents {cs : List Component} (h : Canonical cs) :
    (ofComponents cs).components = cs := by
  obtain ⟨lead, inner, hlead, hinner, rfl⟩ := h
  rw [components, componentsOf_eq]
  rcases hlead with rfl | rfl | rfl
  · rw [List.nil_append, toList_ofComponents_of_ne_root (head?_ne_root hinner),
      leadOf_joined hinner, innerOf_joined hinner, List.nil_append]
  · rw [List.singleton_append, toList_ofComponents_root]
    change [Component.root] ++ innerOf ([] ++ '/' :: joined inner) = _
    rw [innerOf_append_slash, innerOf_joined hinner]
    rfl
  · rw [List.singleton_append, toList_ofComponents_of_ne_root (by simp)]
    cases inner with
    | nil => rfl
    | cons c cs =>
      rw [joined_cons _ (List.cons_ne_nil c cs), leadOf_append_slash (by decide),
        innerOf_append_slash, innerOf_joined hinner]
      rfl

/-- Texts of the same path mean the same. -/
theorem same_iff {p q : Path} : p.same q = true ↔ p.components = q.components := decide_eq_true_iff

/-- A path starts at the top exactly if its text starts with a slash. -/
theorem isAbsolute_iff (p : Path) : p.isAbsolute = true ↔ p.text.toList.head? = some '/' := by
  rw [isAbsolute, decide_eq_true_eq, components, componentsOf_eq]
  constructor
  · intro h
    refine Decidable.byContradiction fun hslash => ?_
    have hroot : Component.root ∈ leadOf p.text.toList ++ innerOf p.text.toList :=
      List.mem_of_mem_head? h
    rcases List.mem_append.mp hroot with hlead | hinner
    · rw [leadOf, if_neg hslash] at hlead
      split at hlead <;> simp at hlead
    · exact absurd (isInner_of_mem_innerOf hinner) (by decide)
  · intro h
    rw [leadOf, if_pos h]
    rfl

/-- A path from the top means the top and what its pieces stand for. -/
theorem components_of_isAbsolute {p : Path} (h : p.isAbsolute = true) :
    p.components = .root :: innerOf p.text.toList := by
  rw [components, componentsOf_eq, leadOf, if_pos ((isAbsolute_iff p).mp h)]
  rfl

/-- What is written behind a slash is added to the components. -/
theorem componentsOf_append_slash {as : List Char} (h : as ≠ []) (bs : List Char) :
    componentsOf (as ++ '/' :: bs) = componentsOf as ++ innerOf bs := by
  rw [componentsOf_eq, leadOf_append_slash h, innerOf_append_slash, componentsOf_eq,
    List.append_assoc]

/-- Joining to a path that is not empty appends the inner components of a path that does not start
at the top. -/
theorem components_join {p q : Path} (hp : p.text ≠ "") (hq : q.isAbsolute = false) :
    (p.join q).components = p.components ++ innerOf q.text.toList := by
  have hchars : p.text.toList ≠ [] := fun h => hp (String.toList_inj.mp h)
  rw [join, hq, if_neg Bool.false_ne_true]
  split
  next hlast => exact absurd (List.getLast?_eq_none_iff.mp hlast) hchars
  next hlast =>
    -- the text ends in a slash, which stands between the two parts already
    obtain ⟨before, hbefore⟩ := List.getLast?_eq_some_iff.mp hlast
    simp only [components, String.toList_append, hbefore, List.append_assoc, List.singleton_append]
    cases before with
    | nil => simp [componentsOf_eq, leadOf, innerOf, segments, Component.ofSegment?]
    | cons c cs =>
      rw [componentsOf_append_slash (List.cons_ne_nil _ _),
        componentsOf_append_slash (List.cons_ne_nil _ _)]
      simp [innerOf, segments, Component.ofSegment?]
  next =>
    have htext : (p.text ++ "/" ++ q.text).toList = p.text.toList ++ '/' :: q.text.toList := by
      simp
    rw [components, components, htext, componentsOf_append_slash hchars]

/-- The directory of a path means all its components but the last. -/
theorem components_parent? {p directory : Path} (h : p.parent? = some directory) :
    directory.components = p.components.dropLast := by
  have hcanonical : Canonical p.components.dropLast := by
    obtain ⟨lead, inner, hlead, hinner, heq⟩ := canonical_components p
    rw [heq]
    by_cases hempty : inner = []
    · subst inner
      refine ⟨[], [], Or.inl rfl, fun _ hc => absurd hc List.not_mem_nil, ?_⟩
      rcases hlead with rfl | rfl | rfl <;> rfl
    · exact ⟨lead, inner.dropLast, hlead,
        fun c hc => hinner c ((List.dropLast_sublist inner).subset hc),
        List.dropLast_append_of_ne_nil hempty⟩
  unfold parent? at h
  split at h
  · contradiction
  · contradiction
  · rw [← Option.some.inj h, components_ofComponents hcanonical]

/-- The directory of a path from the top is one, too. -/
theorem isAbsolute_parent? {p directory : Path} (hp : p.isAbsolute = true)
    (h : p.parent? = some directory) : directory.isAbsolute = true := by
  rw [isAbsolute, decide_eq_true_eq, components_parent? h, components_of_isAbsolute hp]
  by_cases hempty : innerOf p.text.toList = []
  · -- the top has no directory
    rw [parent?, components_of_isAbsolute hp, hempty] at h
    contradiction
  · rw [List.dropLast_cons_of_ne_nil hempty]
    rfl

/-- Behind others stands what is left of a list that begins with them. -/
theorem stripComponents_eq_some_iff {as bs rest : List Component} :
    stripComponents as bs = some rest ↔ as = bs ++ rest := by
  induction as generalizing bs with
  | nil => cases bs <;> simp [stripComponents, eq_comm]
  | cons a as ih =>
    cases bs with
    | nil => simp [stripComponents]
    | cons b bs =>
      rw [stripComponents]
      split
      next heq => rw [ih, heq, List.cons_append, List.cons.injEq, eq_self_iff_true, true_and]
      next hne => simp [hne]

/-- A path lies below another one if its components go on from there. -/
theorem below?_eq_some_iff {p base : Path} {rest : List Component} :
    p.below? base = some rest ↔ p.components = base.components ++ rest :=
  stripComponents_eq_some_iff

end Path

end LayerAudit
