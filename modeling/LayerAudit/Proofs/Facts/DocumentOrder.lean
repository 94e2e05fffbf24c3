import LayerAudit.Proofs.Facts.Lines
import Mathlib.Data.List.Forall2
import Mathlib.Data.List.Lex

/-!
# Facts in document order

A node of a tree is told by its address, the numbers of the children that lead down to it from the root.
Addresses are ordered as words are in a dictionary: an outer node comes before the nodes inside it, and
these come before what follows it.

Main statement: a tree without fault gives the imports, the classes and the interfaces of all its nodes
that state one, each of these nodes once and in this order, however deep they lie. What is said of a class
is read off the members of its own body and the clauses of its own heading, so that nothing inside another
class makes a difference to it.
-/

namespace LayerAudit.Syntax.Node

/-- What holds of a node if it holds of its children holds of every node. -/
@[induction_eliminator]
theorem induction {motive : Node → Prop}
    (mk : ∀ label children, (∀ n ∈ children, motive n) → motive (mk label children)) (n : Node) :
    motive n :=
  match n with
  | .mk label children => mk label children fun n hn =>
      have hsize : sizeOf n < 1 + sizeOf label + sizeOf children := by
        have hchild := List.sizeOf_lt_of_mem hn
        omega
      induction mk n

/-- The node at an address. -/
def at? : Node → List ℕ → Option Node
  | n, [] => some n
  | n, i :: rest => n.children[i]?.bind fun child => child.at? rest

mutual

/-- The addresses of a node and of all nodes below it, outer nodes before those inside them. -/
def addresses : Node → List (List ℕ)
  | mk _ children => [] :: addressesFrom 0 children

/-- The addresses in some trees that are numbered one by one. -/
def addressesFrom : ℕ → List Node → List (List ℕ)
  | _, [] => []
  | i, n :: rest => n.addresses.map (i :: ·) ++ addressesFrom (i + 1) rest

end

/-- An address below a numbered tree starts with that number or a later one. -/
theorem exists_of_mem_addressesFrom {i : ℕ} {nodes : List Node} {address : List ℕ}
    (h : address ∈ addressesFrom i nodes) :
    ∃ j n rest, nodes[j]? = some n ∧ rest ∈ n.addresses ∧ address = (i + j) :: rest := by
  induction nodes generalizing i with
  | nil => cases h
  | cons first nodes ih =>
    rcases List.mem_append.mp h with hfirst | hlater
    · obtain ⟨rest, hrest, rfl⟩ := List.mem_map.mp hfirst
      exact ⟨0, first, rest, rfl, hrest, rfl⟩
    · obtain ⟨j, n, rest, hn, hrest, rfl⟩ := ih hlater
      exact ⟨j + 1, n, rest, hn, hrest, by rw [Nat.add_right_comm, Nat.add_assoc]⟩

/-- The addresses of a tree are those of its root and of the trees below. -/
theorem addresses_eq (n : Node) : n.addresses = [] :: addressesFrom 0 n.children := by
  cases n
  rw [addresses, children]

/-- Below the root, an address has the number of a child and goes on from there. -/
theorem mem_addressesFrom_of_getElem? {i j : ℕ} {nodes : List Node} {n : Node} {rest : List ℕ}
    (hn : nodes[j]? = some n) (hrest : rest ∈ n.addresses) :
    ((i + j) :: rest) ∈ addressesFrom i nodes := by
  induction nodes generalizing i j with
  | nil => cases hn
  | cons first nodes ih =>
    rw [addressesFrom, List.mem_append]
    cases j with
    | zero =>
      obtain rfl := Option.some.inj hn
      exact Or.inl (List.mem_map_of_mem hrest)
    | succ j =>
      have hlater := ih (i := i + 1) hn
      rw [Nat.add_right_comm, Nat.add_assoc] at hlater
      exact Or.inr hlater

/-- The addresses of a tree are those at which it has a node. -/
theorem mem_addresses_iff {root : Node} {address : List ℕ} :
    address ∈ root.addresses ↔ ∃ n, root.at? address = some n := by
  induction address generalizing root with
  | nil =>
    rw [addresses_eq]
    exact iff_of_true List.mem_cons_self ⟨root, rfl⟩
  | cons i rest ih =>
    rw [addresses_eq, List.mem_cons, at?]
    constructor
    · rintro (hnil | hbelow)
      · cases hnil
      · obtain ⟨j, n, rest, hn, hrest, heq⟩ := exists_of_mem_addressesFrom hbelow
        obtain ⟨rfl, rfl⟩ := List.cons.inj heq
        rw [Nat.zero_add, hn]
        exact ih.mp hrest
    · rintro ⟨n, hn⟩
      obtain ⟨child, hchild, hbelow⟩ := Option.bind_eq_some_iff.mp hn
      have hmem := mem_addressesFrom_of_getElem? (i := 0) hchild (ih.mpr ⟨n, hbelow⟩)
      rw [Nat.zero_add] at hmem
      exact Or.inr hmem

/-- The addresses of a tree stand in their order. -/
theorem pairwise_addresses (root : Node) : root.addresses.Pairwise (· < ·) := by
  have hfrom (nodes : List Node) (hnodes : ∀ n ∈ nodes, n.addresses.Pairwise (· < ·)) (i : ℕ) :
      (addressesFrom i nodes).Pairwise (· < ·) := by
    induction nodes generalizing i with
    | nil => exact .nil
    | cons n nodes ih =>
      rw [addressesFrom, List.pairwise_append]
      refine ⟨?_, ih (fun m hm => hnodes m (List.mem_cons_of_mem _ hm)) _, ?_⟩
      · rw [List.pairwise_map]
        exact (hnodes n List.mem_cons_self).imp List.Lex.cons
      · intro address haddress later hlater
        obtain ⟨rest, -, rfl⟩ := List.mem_map.mp haddress
        obtain ⟨j, m, below, -, -, rfl⟩ := exists_of_mem_addressesFrom hlater
        exact List.Lex.rel (by omega)
  induction root with
  | mk label nodes ih =>
    rw [addresses, List.pairwise_cons]
    refine ⟨fun address haddress => ?_, hfrom nodes ih 0⟩
    obtain ⟨j, n, rest, -, -, rfl⟩ := exists_of_mem_addressesFrom haddress
    exact List.Lex.nil

/-- The nodes of a tree lie at its addresses, one by one. -/
theorem forall₂_addresses (root : Node) :
    List.Forall₂ (fun address n => root.at? address = some n) root.addresses root.preorder := by
  have hfrom (nodes : List Node) (hnodes : ∀ n ∈ nodes,
        List.Forall₂ (fun address m => n.at? address = some m) n.addresses n.preorder) (i : ℕ) :
      List.Forall₂ (fun address m => ∃ j rest, address = (i + j) :: rest ∧
          nodes[j]?.bind (fun child => child.at? rest) = some m)
        (addressesFrom i nodes) (preorderAll nodes) := by
    induction nodes generalizing i with
    | nil => exact .nil
    | cons n nodes ih =>
      rw [addressesFrom, preorderAll]
      refine List.rel_append ?_ ?_
      · rw [List.forall₂_map_left_iff]
        exact (hnodes n List.mem_cons_self).imp fun address m hm => ⟨0, address, rfl, hm⟩
      · refine (ih (fun m hm => hnodes m (List.mem_cons_of_mem _ hm)) (i + 1)).imp ?_
        rintro address m ⟨j, rest, rfl, hm⟩
        exact ⟨j + 1, rest, by rw [Nat.add_right_comm, Nat.add_assoc], hm⟩
  induction root with
  | mk label nodes ih =>
    rw [addresses, preorder]
    refine .cons rfl ((hfrom nodes ih 0).imp ?_)
    rintro address m ⟨j, rest, rfl, hm⟩
    rw [Nat.zero_add]
    exact hm

/-- Whether some things are told of exactly the nodes of a tree with a property, of each of these nodes
once, in the order of their addresses. -/
def Lists {α : Type} (root : Node) (has : Node → Prop) (tells : Node → α → Prop) (told : List α) :
    Prop :=
  ∃ addresses : List (List ℕ), addresses.Pairwise (· < ·) ∧
    (∀ address, address ∈ addresses ↔ ∃ n, root.at? address = some n ∧ has n) ∧
    List.Forall₂ (fun address x => ∃ n, root.at? address = some n ∧ tells n x) addresses told

/-- What is read off the nodes of a tree is told of all nodes that it can be read off. -/
theorem lists_filterMap {α : Type} {root : Node} {has : Node → Prop} {tells : Node → α → Prop}
    {reads : Node → Option α} (hhas : ∀ n, has n ↔ ∃ x, reads n = some x)
    (htells : ∀ n x, reads n = some x → tells n x) :
    root.Lists has tells (root.preorder.filterMap reads) := by
  let kept (address : List ℕ) : Bool := ((root.at? address).bind reads).isSome
  refine ⟨root.addresses.filter kept, (pairwise_addresses root).filter _, fun address => ?_, ?_⟩
  · rw [List.mem_filter, mem_addresses_iff, Option.isSome_iff_exists]
    constructor
    · rintro ⟨⟨n, hn⟩, x, hx⟩
      rw [hn] at hx
      exact ⟨n, hn, (hhas n).mpr ⟨x, hx⟩⟩
    · rintro ⟨n, hn, hn'⟩
      obtain ⟨x, hx⟩ := (hhas n).mp hn'
      exact ⟨⟨n, hn⟩, x, by rw [hn]; exact hx⟩
  · have hall := forall₂_addresses root
    generalize root.addresses = addresses at hall
    generalize root.preorder = nodes at hall
    induction hall with
    | nil => exact .nil
    | @cons address n addresses nodes hn _ ih =>
      rw [List.filter_cons, List.filterMap_cons]
      have hkept : kept address = (reads n).isSome := by
        simp only [kept, hn, Option.bind_some]
      cases hreads : reads n with
      | none =>
        rw [hreads] at hkept
        simp only [hkept]
        exact ih
      | some x =>
        rw [hreads] at hkept
        simp only [hkept]
        exact .cons ⟨n, hn, htells n x hreads⟩ ih

/-- Whether a node is of one of some kinds and has a child in a role. -/
def HasPart (kinds : List String) (role : Role) (n : Node) : Prop :=
  n.kind ∈ kinds ∧ ∃ part, n.child? role = some part

/-- The text of the child in a role. -/
def partText? (source : String) (role : Role) (n : Node) : Option String :=
  (n.child? role).map (·.text source)

/-- The kinds of nodes that declare a class. -/
def classKinds : List String := ["class_declaration", "abstract_class_declaration"]

/-- Whether an import is what a node states. -/
structure TellsImport (source : String) (n : Node) (i : Import) : Prop where
  line : i.line = n.label.row + 1
  specifier : (n.partText? source .source).map
    (fun text => String.ofList (Text.trimWhere isQuote text.toList)) = some i.specifier

/-- Whether an interface is what a node declares. -/
structure TellsInterface (source : String) (n : Node) (i : Interface) : Prop where
  line : i.line = n.label.row + 1
  name : n.partText? source .name = some i.name

/-- Whether a type stands in a clause of a class's own heading. -/
def HeadingNames (source clauseKind : String) (n : Node) (t : TypeRef) : Prop :=
  ∃ heading ∈ n.children, heading.kind = "class_heritage" ∧
    ∃ clause ∈ heading.namedChildren, clause.kind = clauseKind ∧
      ∃ named ∈ clause.namedChildren, named.kind ≠ "type_arguments" ∧ named.kind ≠ "comment" ∧
        ⟨named.text source⟩ = t

/-- Whether a class is what a node declares. -/
structure TellsClass (source : String) (n : Node) (k : Class) : Prop where
  read : n.class? source = some k
  line : k.line = n.label.row + 1
  name : n.partText? source .name = some k.name
  hasConstructor : k.hasConstructor = true ↔ ∃ body, n.child? .body = some body ∧
    ∃ member ∈ body.namedChildren, member.kind = "method_definition" ∧
      member.partText? source .name = some "constructor"
  bases : ∀ t, t ∈ k.bases ↔ n.HeadingNames source "extends_clause" t
  contracts : ∀ t, t ∈ k.contracts ↔ n.HeadingNames source "implements_clause" t

/-- A node states an import exactly if it is one with a source. -/
theorem hasPart_iff_import? (source : String) (n : Node) :
    n.HasPart ["import_statement"] .source ↔ ∃ i, n.import? source = some i := by
  rw [HasPart, List.mem_singleton, import?]
  split
  next hkind => simp [hkind, Option.map_eq_some_iff, exists_comm]
  next hkind => simp [hkind]

/-- A node declares a class exactly if it is a declaration of one with a name. -/
theorem hasPart_iff_class? (source : String) (n : Node) :
    n.HasPart classKinds .name ↔ ∃ k, n.class? source = some k := by
  have hkinds : n.kind ∈ classKinds ↔
      (n.kind = "class_declaration" || n.kind = "abstract_class_declaration") = true := by
    simp [classKinds]
  rw [HasPart, hkinds, class?]
  split
  next hkind => simp [hkind, Option.map_eq_some_iff, exists_comm]
  next hkind => simp [hkind]

/-- A node declares an interface exactly if it is a declaration of one with a name. -/
theorem hasPart_iff_interface? (source : String) (n : Node) :
    n.HasPart ["interface_declaration"] .name ↔ ∃ i, n.interface? source = some i := by
  rw [HasPart, List.mem_singleton, interface?]
  split
  next hkind => simp [hkind, Option.map_eq_some_iff, exists_comm]
  next hkind => simp [hkind]

/-- An import that is read off a node is what the node states. -/
theorem tellsImport_of_import? {source : String} {n : Node} {i : Import}
    (h : n.import? source = some i) : n.TellsImport source i := by
  refine ⟨line_of_import? h, ?_⟩
  unfold import? at h
  split at h
  · obtain ⟨part, hpart, rfl⟩ := Option.map_eq_some_iff.mp h
    rw [partText?, hpart]
    rfl
  · cases h

/-- An interface that is read off a node is what the node declares. -/
theorem tellsInterface_of_interface? {source : String} {n : Node} {i : Interface}
    (h : n.interface? source = some i) : n.TellsInterface source i := by
  refine ⟨line_of_interface? h, ?_⟩
  unfold interface? at h
  split at h
  · obtain ⟨part, hpart, rfl⟩ := Option.map_eq_some_iff.mp h
    rw [partText?, hpart]
    rfl
  · cases h

/-- The types of a heading are those in its clauses of a kind. -/
theorem mem_heritage_iff {source clauseKind : String} {n : Node} {t : TypeRef} :
    t ∈ n.heritage source clauseKind ↔ n.HeadingNames source clauseKind t := by
  simp only [heritage, typeRefs, HeadingNames, List.mem_flatMap, List.mem_map, List.mem_filter,
    decide_eq_true_eq, Bool.and_eq_true, bne_iff_ne, and_assoc]

/-- A body declares a constructor if a method among its members is called so. -/
theorem declaresConstructor_iff {source : String} {body : Node} :
    body.declaresConstructor source = true ↔ ∃ member ∈ body.namedChildren,
      member.kind = "method_definition" ∧ member.partText? source .name = some "constructor" := by
  simp only [declaresConstructor, partText?, List.any_eq_true, Bool.and_eq_true, decide_eq_true_eq]

/-- A class that is read off a node is what the node declares. -/
theorem tellsClass_of_class? {source : String} {n : Node} {k : Class} (h : n.class? source = some k) :
    n.TellsClass source k := by
  have hread := h
  unfold class? at h
  split at h
  · obtain ⟨part, hpart, rfl⟩ := Option.map_eq_some_iff.mp h
    refine ⟨hread, rfl, ?_, ?_, fun _ => mem_heritage_iff, fun _ => mem_heritage_iff⟩
    · rw [partText?, hpart]
      rfl
    · cases hbody : n.child? .body with
      | none => simp
      | some body => simp [declaresConstructor_iff]
  · cases h

/-- The kinds of nodes that stand for a class, declared or not. -/
def allClassKinds : List String := "class" :: classKinds

mutual

/-- The tree without what is inside its classes. -/
def hollow : Node → Node
  | mk label children => mk label (if label.kind ∈ allClassKinds then [] else hollowAll children)

/-- Some trees without what is inside their classes. -/
def hollowAll : List Node → List Node
  | [] => []
  | n :: rest => n.hollow :: hollowAll rest

end

/-- Nodes are hollowed one by one. -/
theorem hollowAll_eq_map (nodes : List Node) : hollowAll nodes = nodes.map hollow := by
  induction nodes with
  | nil => rfl
  | cons n nodes ih => rw [hollowAll, ih, List.map_cons]

/-- To hollow out a node leaves its own label. -/
@[simp] theorem label_hollow (n : Node) : n.hollow.label = n.label := by
  cases n
  rw [hollow, label, label]

/-- To hollow out a node leaves its kind. -/
@[simp] theorem kind_hollow (n : Node) : n.hollow.kind = n.kind := congrArg Label.kind n.label_hollow

/-- The node without what is inside the classes below it. -/
def hollowInside (n : Node) : Node := mk n.label (n.children.map hollow)

/-- A class without what is inside the classes that are nested in its parts. -/
def withoutNested (n : Node) : Node := mk n.label (n.children.map hollowInside)

/-- Of a node that is no class, all children are kept. -/
theorem hollow_eq {n : Node} (h : n.kind ∉ allClassKinds) : n.hollow = n.hollowInside := by
  obtain ⟨label, children⟩ := n
  change label.kind ∉ allClassKinds at h
  rw [hollow, if_neg h, hollowAll_eq_map]
  rfl

/-- Of nodes that are changed in what a test does not look at, the test picks those that it picked. -/
theorem filter_map_of_test {change : Node → Node} {test : Node → Bool}
    (htest : ∀ n, test (change n) = test n) (nodes : List Node) :
    (nodes.map change).filter test = (nodes.filter test).map change := by
  have hcomp : test ∘ change = test := funext htest
  rw [List.filter_map, hcomp]

/-- What is read off the child in a role stays the same if children are changed but for their labels and
for what is read. -/
theorem map_child?_mk_map {α : Type} {change : Node → Node} (hchange : ∀ n, (change n).label = n.label)
    {reads : Node → α} (hreads : ∀ n, reads (change n) = reads n) (label : Label) (n : Node)
    (role : Role) :
    ((mk label (n.children.map change)).child? role).map reads = (n.child? role).map reads := by
  have hcomp : reads ∘ change = reads := funext hreads
  have htest : (fun c : Node => c.label.roles.contains role) ∘ change =
      fun c => c.label.roles.contains role := by
    funext c
    rw [Function.comp_apply, hchange]
  change ((n.children.map change).find? fun c => c.label.roles.contains role).map reads = _
  rw [List.find?_map, Option.map_map, hcomp, htest]
  rfl

/-- A node's text is told by its label. -/
theorem text_congr (source : String) {m n : Node} (h : m.label = n.label) :
    m.text source = n.text source := by
  rw [text, text, h]

/-- To hollow out a node inside hollows out its named children. -/
theorem namedChildren_hollowInside (n : Node) :
    n.hollowInside.namedChildren = n.namedChildren.map hollow :=
  filter_map_of_test (fun n => congrArg Label.named n.label_hollow) n.children

/-- A body tells of a constructor what it told before the classes in it were emptied. -/
theorem declaresConstructor_hollowInside (source : String) (body : Node) :
    declaresConstructor source body.hollowInside = declaresConstructor source body := by
  rw [declaresConstructor, declaresConstructor, namedChildren_hollowInside, List.any_map]
  refine congrArg (fun test => body.namedChildren.any test) (funext fun member => ?_)
  rw [Function.comp_apply, kind_hollow]
  by_cases hkind : member.kind = "method_definition"
  · have hclass : member.kind ∉ allClassKinds := by
      rw [hkind]
      decide
    rw [hollow_eq hclass, hollowInside,
      map_child?_mk_map label_hollow fun n => text_congr source n.label_hollow]
  · simp [hkind]

/-- A clause lists the types that it listed before the classes in it were emptied. -/
theorem typeRefs_hollow (source : String) {clause : Node} (h : clause.kind ∉ allClassKinds) :
    typeRefs source clause.hollow = typeRefs source clause := by
  rw [typeRefs, typeRefs, hollow_eq h, namedChildren_hollowInside,
    filter_map_of_test fun t => by simp only [kind_hollow], List.map_map]
  exact List.map_congr_left fun t _ => congrArg TypeRef.mk (text_congr source t.label_hollow)

/-- A heading names the types that it named before the classes in it were emptied. -/
theorem heritage_withoutNested (source : String) {clauseKind : String} (hclass : clauseKind ∉ allClassKinds)
    (n : Node) : n.withoutNested.heritage source clauseKind = n.heritage source clauseKind := by
  have hkind (part : Node) : decide (part.hollowInside.kind = "class_heritage") =
      decide (part.kind = "class_heritage") := rfl
  have hheading : n.withoutNested.children.filter (·.kind = "class_heritage") =
      (n.children.filter (·.kind = "class_heritage")).map hollowInside :=
    filter_map_of_test hkind n.children
  rw [heritage, heritage, hheading, List.flatMap_map]
  refine List.flatMap_congr fun heading _ => ?_
  rw [namedChildren_hollowInside, filter_map_of_test fun c => by simp only [kind_hollow],
    List.flatMap_map]
  refine List.flatMap_congr fun clause hclause => ?_
  have hkind : clause.kind = clauseKind := of_decide_eq_true (List.mem_filter.mp hclause).2
  exact typeRefs_hollow source (hkind ▸ hclass)

/-- What is read off a class does not depend on what is inside the classes that are nested in its parts. -/
theorem class?_withoutNested (source : String) (n : Node) :
    n.withoutNested.class? source = n.class? source := by
  have hlabel (part : Node) : part.hollowInside.label = part.label := rfl
  have hbody : (n.withoutNested.child? .body).map (declaresConstructor source) =
      (n.child? .body).map (declaresConstructor source) :=
    map_child?_mk_map hlabel (declaresConstructor_hollowInside source) n.label n .body
  rw [class?, class?, hbody, heritage_withoutNested source (by decide),
    heritage_withoutNested source (by decide)]
  refine if_congr Iff.rfl ?_ rfl
  exact map_child?_mk_map hlabel (fun _ => rfl) n.label n .name

/-- A tree without fault gives facts. The imports, the classes and the interfaces among them are those of
all its nodes that state one, each of these nodes once and in the order of their addresses, with the line
on which the node starts; so their lines ascend if the rows of the nodes do. A class is read off the
members of its own body and the clauses of its own heading, and nodes that differ inside nested classes
only declare the same class. -/
theorem readFacts_lists_all_nodes (source : String) {root : Node} (hsound : root.faulty = false) :
    ∃ facts, root.readFacts source = .ok facts ∧
      root.Lists (HasPart ["import_statement"] .source) (TellsImport source) facts.imports ∧
      root.Lists (HasPart classKinds .name) (TellsClass source) facts.classes ∧
      root.Lists (HasPart ["interface_declaration"] .name) (TellsInterface source) facts.interfaces ∧
      (root.RowsAscend → facts.LinesAscend) ∧
      ∀ m n : Node, m.withoutNested = n.withoutNested → m.class? source = n.class? source := by
  refine ⟨root.facts source, if_neg (by simp [hsound]), ?_, ?_, ?_, fun h => h.linesAscend source, ?_⟩
  · exact lists_filterMap (hasPart_iff_import? source) fun _ _ => tellsImport_of_import?
  · exact lists_filterMap (hasPart_iff_class? source) fun _ _ => tellsClass_of_class?
  · exact lists_filterMap (hasPart_iff_interface? source) fun _ _ => tellsInterface_of_interface?
  · intro m n h
    rw [← class?_withoutNested source m, h, class?_withoutNested]

/-- A class without constructor has a method with a class that has one. Both are listed, the outer one
first. -/
theorem readFacts_lists_all_nodes_nested :
    let source := "class A { m() { class B { constructor() {} } } }"
    let node (kind : String) (roles : List Role) (start stop : ℕ) (children : List Node) : Node :=
      mk ⟨kind, true, .sound, false, roles, 0, start, stop⟩ children
    let inner := node "class_declaration" [] 16 44 [node "type_identifier" [.name] 22 23 [],
      node "class_body" [.body] 24 44 [node "method_definition" [] 26 42
        [node "property_identifier" [.name] 26 37 []]]]
    let root := node "program" [] 0 48 [node "class_declaration" [] 0 48
      [node "type_identifier" [.name] 6 7 [],
        node "class_body" [.body] 8 48 [node "method_definition" [] 10 46
          [node "property_identifier" [.name] 10 11 [], node "statement_block" [.body] 14 46 [inner]]]]]
    root.faulty = false ∧
      ∃ facts, root.readFacts source = .ok facts ∧
        root.Lists (HasPart classKinds .name) (TellsClass source) facts.classes ∧
        facts.classes = [⟨"A", 1, false, [], []⟩, ⟨"B", 1, true, [], []⟩] ∧ facts.LinesAscend := by
  intro source node inner root
  have hsound : root.faulty = false := by decide
  have hrows : root.RowsAscend := by
    unfold RowsAscend
    decide
  obtain ⟨facts, hread, -, hclasses, -, hlines, -⟩ := readFacts_lists_all_nodes source hsound
  have hfacts : facts = root.facts source := (Except.ok.inj hread).symm
  refine ⟨hsound, facts, hread, hclasses, ?_, hlines hrows⟩
  rw [hfacts]
  decide

end LayerAudit.Syntax.Node
