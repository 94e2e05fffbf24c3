import LayerAudit.Proofs.Path.Components

/-!
# Where resolved paths lead

A walk along the components of a path leads to a place: the names below the start of the path, and
the number of times that two dots met the start, where there is nothing to go back from. Resolving
dots shows the names of that place. Of the meetings with the start it keeps the parity alone: two
dots that stand at the start already are taken back by the next ones. So resolving is ordinary
resolution as long as a path does not climb above its start, and it depends on the number of
climbs if a path does.

Resolving is idempotent, keeps lists of components canonical, and leaves names at the end alone.
-/

namespace LayerAudit

/-- Where a walk along the components of a path has led. -/
structure Place where
  /-- The names below the start, the last one first. -/
  names : List String
  /-- How often two dots met the start. -/
  climbs : Nat
  deriving DecidableEq, Repr, Inhabited

namespace Place

/-- The place where every walk starts. -/
def start : Place := ⟨[], 0⟩

/-- A name leads down, and two dots lead back by one name. At the start they lead nowhere. -/
def step (p : Place) : Component → Place
  | .name text => { p with names := text :: p.names }
  | .parent =>
    match p.names with
    | [] => { p with climbs := p.climbs + 1 }
    | _ :: above => { p with names := above }
  | _ => p

/-- The walk along components. -/
def walk (p : Place) (cs : List Component) : Place := cs.foldl step p

/-- The components that a resolved path shows of a place, the last one first. -/
def stack (p : Place) : List Component :=
  p.names.map .name ++ if p.climbs % 2 = 1 then [.parent] else []

/-- The components that a resolved path shows of a place. -/
def components (p : Place) : List Component := p.stack.reverse

/-- A place is written with two dots if its climbs are odd, and then with its names. -/
theorem components_eq (p : Place) :
    p.components = (if p.climbs % 2 = 1 then [.parent] else []) ++ p.names.reverse.map .name := by
  rw [components, stack, List.reverse_append, List.map_reverse]
  split <;> rfl

/-- A walk goes on from where its first part ends. -/
theorem walk_append (p : Place) (as bs : List Component) :
    p.walk (as ++ bs) = (p.walk as).walk bs := List.foldl_append

/-- A walk along names leads down by them. -/
theorem walk_names (p : Place) (names : List String) :
    p.walk (names.map .name) = ⟨names.reverse ++ p.names, p.climbs⟩ := by
  induction names generalizing p with
  | nil => rfl
  | cons name names ih =>
    change (p.step (.name name)).walk (names.map .name) = _
    rw [ih, List.reverse_cons, List.append_assoc]
    rfl

/-- A walk meets no names but its own. -/
theorem mem_names_walk {p : Place} {cs : List Component} {text : String}
    (h : text ∈ (p.walk cs).names) : text ∈ p.names ∨ .name text ∈ cs := by
  induction cs generalizing p with
  | nil => exact Or.inl h
  | cons c cs ih =>
    rcases ih h with hstep | hrest
    · cases c with
      | name other =>
        rcases List.mem_cons.mp hstep with rfl | hbefore
        · exact Or.inr List.mem_cons_self
        · exact Or.inl hbefore
      | parent =>
        obtain ⟨names, climbs⟩ := p
        cases names with
        | nil => exact absurd hstep List.not_mem_nil
        | cons last above => exact Or.inl (List.mem_cons_of_mem _ hstep)
      | root => exact Or.inl hstep
      | current => exact Or.inl hstep
    · exact Or.inr (List.mem_cons_of_mem _ hrest)

/-- What a resolved path shows can stand between slashes if what was walked can. -/
theorem isInner_of_mem_components {cs : List Component} (h : ∀ c ∈ cs, c.IsInner) {c : Component}
    (hc : c ∈ (start.walk cs).components) : c.IsInner := by
  rw [components_eq] at hc
  rcases List.mem_append.mp hc with hparent | hname
  · split at hparent
    · rw [List.mem_singleton.mp hparent]
      decide
    · exact absurd hparent List.not_mem_nil
  · obtain ⟨text, htext, rfl⟩ := List.mem_map.mp hname
    rcases mem_names_walk (List.mem_reverse.mp htext) with hstart | hwalked
    · exact absurd hstart List.not_mem_nil
    · exact h _ hwalked

/-- The place as a resolved path shows it: of the climbs their parity is left. -/
def shown (p : Place) : Place := ⟨p.names, p.climbs % 2⟩

/-- To show what is shown changes nothing. -/
@[simp] theorem shown_shown (p : Place) : p.shown.shown = p.shown := by
  rw [shown, shown, Nat.mod_mod]

/-- A resolved path tells no more of a place, and no less. -/
theorem components_eq_iff {p q : Place} : p.components = q.components ↔ p.shown = q.shown := by
  have hnames {as bs : List String} : as.reverse.map Component.name = bs.reverse.map .name ↔
      as = bs := by
    rw [List.map_inj_right fun _ _ => Component.name.inj, List.reverse_inj]
  have hrest (n : Nat) : ¬n % 2 = 1 → n % 2 = 0 := by omega
  simp only [components_eq, shown, mk.injEq, ← hnames]
  by_cases hp : p.climbs % 2 = 1 <;> by_cases hq : q.climbs % 2 = 1
  · simp [hp, hq]
  · cases q.names.reverse <;> simp [hp, hrest _ hq]
  · cases p.names.reverse <;> simp [hrest _ hp, hq]
  · simp [hrest _ hp, hrest _ hq]

/-- The walk along what a resolved path shows of a place leads to the place as it is shown. -/
theorem walk_components (p : Place) : start.walk p.components = p.shown := by
  rw [components_eq, walk_append, walk_names, List.reverse_reverse, shown]
  split
  next hodd => simp [walk, step, start, hodd]
  next heven =>
    have hzero : p.climbs % 2 = 0 := by omega
    simp [walk, start, hzero]

/-- The walk along what a resolved path shows leads to a place that shows the same. -/
theorem components_walk_components (p : Place) :
    (start.walk p.components).components = p.components := by
  rw [walk_components, components_eq_iff, shown_shown]

/-- A step from the place as it is shown leads to what the step from the place shows. -/
theorem shown_step (p : Place) (c : Component) : (p.shown.step c).shown = (p.step c).shown := by
  obtain ⟨names, climbs⟩ := p
  cases c with
  | root | current | name => simp [shown, step]
  | parent =>
    cases names with
    | cons last above => simp [shown, step]
    | nil => simp only [shown, step, Nat.mod_add_mod]

/-- A walk from the place as it is shown leads to what the walk from the place shows. -/
theorem shown_walk (p : Place) (cs : List Component) :
    (p.shown.walk cs).shown = (p.walk cs).shown := by
  induction cs generalizing p with
  | nil => exact shown_shown p
  | cons c cs ih =>
    change ((p.shown.step c).walk cs).shown = ((p.step c).walk cs).shown
    rw [← ih, shown_step, ih]

/-- Two dots meet the start no more often than there are two dots. -/
theorem climbs_walk_le (p : Place) (cs : List Component) :
    (p.walk cs).climbs ≤ p.climbs + cs.count .parent := by
  induction cs generalizing p with
  | nil => exact Nat.le_refl _
  | cons c cs ih =>
    have hstep : (p.step c).climbs ≤ p.climbs + [c].count .parent := by
      cases c with
      | root | current | name => exact Nat.le_add_right _ _
      | parent =>
        obtain ⟨names, climbs⟩ := p
        cases names <;> simp [step]
    have hcount : (c :: cs).count .parent = [c].count .parent + cs.count .parent := by
      rw [← List.singleton_append, List.count_append]
    have hwalk : (p.walk (c :: cs)).climbs ≤ (p.step c).climbs + cs.count .parent := ih (p.step c)
    omega

end Place

namespace Path

/-- What a resolved path starts with: a slash or nothing. -/
def IsStart (lead : List Component) : Prop := lead = [] ∨ lead = [.root]

/-- One component is resolved as it is walked. -/
theorem resolveStep_stack {lead : List Component} (hlead : IsStart lead) (p : Place)
    {c : Component} (hc : c.IsInner) :
    resolveStep (p.stack ++ lead) c = (p.step c).stack ++ lead := by
  obtain ⟨names, climbs⟩ := p
  rcases hc.eq_parent_or_name with rfl | ⟨text, rfl⟩
  · cases names with
    | cons last above => rfl
    | nil =>
      -- only here do the climbs matter, and only by their parity
      have hmod : (climbs + 1) % 2 = 1 ↔ ¬climbs % 2 = 1 := by omega
      rcases hlead with rfl | rfl <;> by_cases hodd : climbs % 2 = 1 <;>
        simp [Place.stack, Place.step, resolveStep, hmod, hodd]
  · rfl

/-- Components are resolved as they are walked. -/
theorem foldl_resolveStep_stack {lead cs : List Component} (hlead : IsStart lead) (p : Place)
    (h : ∀ c ∈ cs, c.IsInner) :
    cs.foldl resolveStep (p.stack ++ lead) = (p.walk cs).stack ++ lead := by
  induction cs generalizing p with
  | nil => rfl
  | cons c cs ih =>
    rw [List.foldl_cons, resolveStep_stack hlead p (h c List.mem_cons_self),
      ih (p.step c) fun d hd => h d (List.mem_cons_of_mem _ hd)]
    rfl

/-- A resolved path shows the place that its components lead to. -/
theorem resolve_append {lead inner : List Component} (hlead : IsStart lead)
    (h : ∀ c ∈ inner, c.IsInner) :
    resolve (lead ++ inner) = lead ++ (Place.start.walk inner).components := by
  have hstart : lead.foldl resolveStep [] = Place.start.stack ++ lead := by
    rcases hlead with rfl | rfl <;> rfl
  have hlength : lead.reverse = lead := by
    rcases hlead with rfl | rfl <;> rfl
  rw [resolve, List.foldl_append, hstart, foldl_resolveStep_stack hlead _ h, List.reverse_append,
    hlength, Place.components]

/-- Lists of components that dots are resolved to. -/
def Resolved (cs : List Component) : Prop :=
  ∃ lead inner, IsStart lead ∧ (∀ c ∈ inner, Component.IsInner c) ∧
    cs = lead ++ (Place.start.walk inner).components

/-- Resolving a canonical list resolves it. -/
theorem resolved_resolve {cs : List Component} (h : Canonical cs) : Resolved (resolve cs) := by
  obtain ⟨lead, inner, hlead, hinner, rfl⟩ := h
  rcases hlead with rfl | rfl | rfl
  · exact ⟨[], inner, Or.inl rfl, hinner, resolve_append (Or.inl rfl) hinner⟩
  · exact ⟨[.root], inner, Or.inr rfl, hinner, resolve_append (Or.inr rfl) hinner⟩
  · have hresolve : resolve ([] ++ inner) = _ := resolve_append (Or.inl rfl) hinner
    exact ⟨[], inner, Or.inl rfl, hinner, hresolve⟩

/-- A resolved list is canonical. -/
theorem Resolved.canonical {cs : List Component} (h : Resolved cs) : Canonical cs := by
  obtain ⟨lead, inner, hlead, hinner, rfl⟩ := h
  exact ⟨lead, _, hlead.imp_right Or.inl, fun _ hc => Place.isInner_of_mem_components hinner hc, rfl⟩

/-- A resolved list stays as it is. -/
theorem Resolved.resolve_eq {cs : List Component} (h : Resolved cs) : resolve cs = cs := by
  obtain ⟨lead, inner, hlead, hinner, rfl⟩ := h
  rw [resolve_append hlead fun c hc => Place.isInner_of_mem_components hinner hc,
    Place.components_walk_components]

/-- The components of a path without dots are the resolved ones of the path. -/
theorem components_normalize (p : Path) : p.normalize.components = resolve p.components :=
  components_ofComponents (resolved_resolve (canonical_components p)).canonical

/-- What a path without dots means is resolved. -/
theorem resolved_components_normalize (p : Path) : Resolved p.normalize.components :=
  components_normalize p ▸ resolved_resolve (canonical_components p)

/-- Taking dots out twice takes them out once. -/
theorem components_normalize_normalize (p : Path) :
    p.normalize.normalize.components = p.normalize.components := by
  rw [components_normalize p.normalize, (resolved_components_normalize p).resolve_eq]

/-- Names at the end stay where they are. -/
theorem resolve_append_names (cs : List Component) (names : List String) :
    resolve (cs ++ names.map .name) = resolve cs ++ names.map .name := by
  have hfold (done : List Component) :
      (names.map Component.name).foldl resolveStep done = (names.map .name).reverse ++ done := by
    induction names generalizing done with
    | nil => rfl
    | cons name names ih => simp [resolveStep, ih]
  rw [resolve, List.foldl_append, hfold, List.reverse_append, List.reverse_reverse, resolve]

/-- A path from the top resolves to the top and the place that it leads to. -/
theorem components_normalize_of_isAbsolute {p : Path} (h : p.isAbsolute = true) :
    p.normalize.components =
      .root :: (Place.start.walk (innerOf p.text.toList)).components := by
  rw [components_normalize, components_of_isAbsolute h]
  exact resolve_append (Or.inr rfl) fun _ hc => isInner_of_mem_innerOf hc

end Path

end LayerAudit
