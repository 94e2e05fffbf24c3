import LayerAudit.Proofs.Facts.FirstFault

/-!
# Names that exports state

An export statement makes names known to other modules: `default`, what a declaration binds, the entries of
a clause, or a name for another module as a whole. What is recorded of it is the text of some nodes, which
are looked for in a few places. A pattern, a qualified name or a string has a text, too, but it is not such
a name.

Main statement: of an export statement the names that the module exports by it are recorded, at its line,
if they are identifiers in these places; if not, something else is recorded. Only the second part needs that
names are spelled as the grammar spells them. A name that is exported twice is listed twice.
-/

namespace LayerAudit.Syntax.Node

/-- The kinds of identifiers in places where they bind. -/
def identifierKinds : List String :=
  ["identifier", "type_identifier", "shorthand_property_identifier_pattern"]

/-- The kinds of patterns and of their parts. -/
def patternKinds : List String :=
  ["object_pattern", "array_pattern", "pair_pattern", "rest_pattern", "assignment_pattern",
    "object_assignment_pattern"]

mutual

/-- The names that are bound by an identifier, a qualified name or a pattern. A qualified name binds its
first identifier; a string binds none. -/
def boundNames (source : String) : Node → List String
  | mk label children =>
    if label.kind ∈ identifierKinds then [(mk label children).text source]
    else if label.kind = "nested_identifier" then
      (((mk label children).preorder.find? (·.kind = "identifier")).map (·.text source)).toList
    else if label.kind ∈ patternKinds then boundNamesAmong source children
    else []

/-- The names that the parts of a pattern bind. What stands behind an equals sign is a default value. -/
def boundNamesAmong (source : String) : List Node → List String
  | [] => []
  | n :: rest => if n.kind = "=" then [] else n.boundNames source ++ boundNamesAmong source rest

end

/-- The nodes that say what a declaration declares: its name, or else those of its declarators. -/
def nameNodes (declaration : Node) : List Node :=
  match declaration.child? .name with
  | some name => [name]
  | none =>
    (declaration.namedChildren.filter (·.kind = "variable_declarator")).filterMap (·.child? .name)

/-- The kinds of declarations that have no name of their own: one wraps another declaration, and one gives
a new name to something. -/
def namelessKinds : List String := ["ambient_declaration", "import_alias"]

mutual

/-- The names that a declaration binds. -/
def boundByDeclaration (source : String) : Node → List String
  | mk label children =>
    if label.kind = "ambient_declaration" then boundByDeclarations source children
    else if label.kind = "import_alias" then
      ((children.find? (·.kind = "identifier")).map (·.text source)).toList
    else (mk label children).nameNodes.flatMap (boundNames source)

/-- The names that some declarations bind. -/
def boundByDeclarations (source : String) : List Node → List String
  | [] => []
  | n :: rest => n.boundByDeclaration source ++ boundByDeclarations source rest

end

/-- Whether an export statement states the default export. -/
def isDefault (n : Node) : Bool := n.children.any (·.kind = "default")

/-- The nodes that name the entries of an export clause: the new name of each, or else its name. -/
def entryNames (n : Node) : List Node :=
  (n.children.filter (·.kind = "export_clause")).flatMap fun clause =>
    (clause.namedChildren.filter (·.kind = "export_specifier")).filterMap fun specifier =>
      (specifier.child? .newName).or (specifier.child? .name)

/-- The nodes that give a name to another module as a whole. -/
def namespaceNames (n : Node) : List Node :=
  (n.children.filter (·.kind = "namespace_export")).flatMap fun part =>
    part.children.filter fun name => name.kind ∈ ["identifier", "string"]

/-- The name that a node stands for: its text, or of a string what is between the quotes. -/
def spelledName (source : String) (n : Node) : String :=
  if n.kind = "string" then String.ofList (n.text source).toList.tail.dropLast else n.text source

/-- The names that a module exports by an export statement. -/
def moduleNames (source : String) (n : Node) : List String :=
  if n.isDefault then ["default"]
  else
    match n.child? .declaration with
    | some declaration => declaration.boundByDeclaration source
    | none => (n.entryNames ++ n.namespaceNames).map (spelledName source)

/-- The exports that a module has by an export statement, all on the line of the statement. -/
def moduleExports (source : String) (n : Node) : List Export :=
  (n.moduleNames source).map fun name => ⟨n.label.row + 1, name⟩

/-- The export statements of a tree, in document order. -/
def exportStatements (root : Node) : List Node := root.preorder.filter (·.kind = "export_statement")

/-- Whether the names that an export statement exports are looked for where they are, and are the texts
that are found there. -/
inductive NamesInPlace (source : String) (n : Node) : Prop where
  /-- A default export that declares nothing. -/
  | default (hdefault : n.isDefault = true) (hd : n.child? .declaration = none) (hentries : n.entryNames = [])
  /-- A default export of a declaration that is itself named so. -/
  | defaultName {d : Node} (hdefault : n.isDefault = true) (hd : n.child? .declaration = some d)
    (hnames : d.nameNodes.map (text source) = ["default"])
  /-- A declaration that is named by identifiers. -/
  | declaration {d : Node} (hdefault : n.isDefault = false) (hd : n.child? .declaration = some d)
    (hkind : d.kind ∉ namelessKinds) (hnames : ∀ name ∈ d.nameNodes, name.kind ∈ identifierKinds)
  /-- A declaration without name that binds nothing. -/
  | nothing {d : Node} (hdefault : n.isDefault = false) (hd : n.child? .declaration = some d)
    (hkind : d.kind ∈ namelessKinds) (hnames : d.nameNodes = [])
    (hbound : d.boundByDeclaration source = [])
  /-- A clause without strings. -/
  | entries (hdefault : n.isDefault = false) (hd : n.child? .declaration = none)
    (hnamespace : n.namespaceNames = []) (hnames : ∀ name ∈ n.entryNames, name.kind ≠ "string")

/-- Whether a text could be an identifier: it has none of the characters that qualified names, patterns and
strings have. -/
def isWord (text : String) : Bool :=
  text.toList.all fun c => !(['.', '\x7b', '[', '"', '\''].contains c)

/-- A declaration with the spelling that the grammar gives to names. -/
structure NamesWellSpelled (source : String) (d : Node) : Prop where
  nameless : d.kind ∈ namelessKinds → d.nameNodes = []
  identifier : ∀ name ∈ d.nameNodes, ∀ m ∈ name.preorder, m.kind ∈ identifierKinds →
    isWord (m.text source) = true
  other : ∀ name ∈ d.nameNodes, name.kind ∉ identifierKinds → isWord (name.text source) = false

/-- An export statement with the spelling that the grammar gives to names. -/
structure WellSpelled (source : String) (n : Node) : Prop where
  declaration : ∀ d, n.child? .declaration = some d → d.NamesWellSpelled source
  entry : ∀ name ∈ n.entryNames, name.text source ≠ ""

/-- An identifier binds its own text. -/
theorem boundNames_of_identifier (source : String) {n : Node} (h : n.kind ∈ identifierKinds) :
    n.boundNames source = [n.text source] := by
  cases n with
  | mk label children => rw [boundNames, if_pos (show label.kind ∈ identifierKinds from h)]

/-- What is bound among nodes is bound by one of them. -/
theorem exists_mem_of_mem_boundNamesAmong {source : String} {nodes : List Node} {x : String}
    (h : x ∈ boundNamesAmong source nodes) : ∃ n ∈ nodes, x ∈ n.boundNames source := by
  induction nodes with
  | nil => cases h
  | cons n rest ih =>
    rw [boundNamesAmong] at h
    split at h
    · cases h
    · rcases List.mem_append.mp h with hfirst | hrest
      · exact ⟨n, List.mem_cons_self, hfirst⟩
      · obtain ⟨m, hm, hx⟩ := ih hrest
        exact ⟨m, List.mem_cons_of_mem n hm, hx⟩

/-- What a pattern binds are texts of identifiers in it. -/
theorem exists_identifier_of_mem_boundNames {source : String} {n : Node} {x : String}
    (h : x ∈ n.boundNames source) :
    ∃ m ∈ n.preorder, m.kind ∈ identifierKinds ∧ m.text source = x := by
  induction n with
  | mk label children ih =>
    rw [boundNames] at h
    split at h
    next hkind => exact ⟨_, mem_preorder_self _, hkind, (List.mem_singleton.mp h).symm⟩
    next =>
      split at h
      next =>
        -- the first identifier of a qualified name may lie at any depth
        obtain ⟨m, hm, rfl⟩ := Option.map_eq_some_iff.mp (Option.mem_toList.mp h)
        have hkind : m.kind = "identifier" := by simpa using List.find?_some hm
        exact ⟨m, List.mem_of_find?_eq_some hm, by rw [hkind]; decide, rfl⟩
      next =>
        split at h
        next =>
          obtain ⟨child, hchild, hx⟩ := exists_mem_of_mem_boundNamesAmong h
          obtain ⟨m, hm, hm'⟩ := ih child hchild hx
          refine ⟨m, ?_, hm'⟩
          rw [preorder_eq]
          exact List.mem_cons_of_mem _ (mem_preorderAll_of_mem hchild hm)
        next => cases h

/-- What is recorded of a declaration are the texts of the nodes that name it. -/
theorem declaredNames_eq (source : String) (d : Node) :
    d.declaredNames source = d.nameNodes.map (text source) := by
  rw [declaredNames, nameNodes]
  cases d.child? .name with
  | some name => rfl
  | none => exact List.map_filterMap.symm

/-- What is recorded of the clauses of a statement are the texts of the nodes that name their entries. -/
theorem clauseNames_eq (source : String) (n : Node) :
    n.clauseNames source = n.entryNames.map (text source) := by
  rw [clauseNames, entryNames, List.map_flatMap]
  refine List.flatMap_congr fun clause _ => ?_
  rw [List.map_filterMap]
  rfl

/-- Of a statement with a declaration, the names of the declaration are recorded. -/
theorem exportedNames_of_declaration (source : String) {n d : Node} (hd : n.child? .declaration = some d) :
    n.exportedNames source = d.nameNodes.map (text source) := by
  rw [exportedNames, hd, ← declaredNames_eq]

/-- Of a statement without a declaration, its entries are recorded, and that it is the default. -/
theorem exportedNames_of_none (source : String) {n : Node} (hd : n.child? .declaration = none) :
    n.exportedNames source =
      n.entryNames.map (text source) ++ if n.isDefault then ["default"] else [] := by
  rw [exportedNames, hd, ← clauseNames_eq]
  rfl

/-- A default export exports nothing but the default. -/
theorem moduleNames_of_default (source : String) {n : Node} (h : n.isDefault = true) :
    n.moduleNames source = ["default"] :=
  if_pos h

/-- A declaration is exported under the names that it binds. -/
theorem moduleNames_of_declaration (source : String) {n d : Node} (h : n.isDefault = false)
    (hd : n.child? .declaration = some d) : n.moduleNames source = d.boundByDeclaration source := by
  rw [moduleNames, if_neg (Bool.eq_false_iff.mp h), hd]

/-- Without a declaration, the entries and namespaces of a statement are exported. -/
theorem moduleNames_of_none (source : String) {n : Node} (h : n.isDefault = false)
    (hd : n.child? .declaration = none) :
    n.moduleNames source = (n.entryNames ++ n.namespaceNames).map (spelledName source) := by
  rw [moduleNames, if_neg (Bool.eq_false_iff.mp h), hd]

/-- A declaration with a name of its own binds what the nodes that name it bind. -/
theorem boundByDeclaration_of_named (source : String) {d : Node} (h : d.kind ∉ namelessKinds) :
    d.boundByDeclaration source = d.nameNodes.flatMap (boundNames source) := by
  cases d with
  | mk label children =>
    have hkind : label.kind ∉ namelessKinds := h
    obtain ⟨hambient, halias⟩ :
        label.kind ≠ "ambient_declaration" ∧ label.kind ≠ "import_alias" := by
      simpa [namelessKinds] using hkind
    rw [boundByDeclaration, if_neg hambient, if_neg halias]

/-- Identifiers bind their texts. -/
theorem map_text_eq_flatMap_boundNames (source : String) {names : List Node}
    (h : ∀ name ∈ names, name.kind ∈ identifierKinds) :
    names.map (text source) = names.flatMap (boundNames source) := by
  rw [List.map_eq_flatMap]
  exact List.flatMap_congr fun name hname => (boundNames_of_identifier source (h name hname)).symm

/-- Of a declaration that is not named by identifiers, a text is recorded that it does not bind. -/
theorem NamesWellSpelled.map_text_ne {source : String} {d name : Node} (h : d.NamesWellSpelled source)
    (hname : name ∈ d.nameNodes) (hkind : name.kind ∉ identifierKinds) :
    d.nameNodes.map (text source) ≠ d.nameNodes.flatMap (boundNames source) := by
  -- what is bound has none of the characters that the text of such a name has
  intro heq
  have hrecorded : name.text source ∈ d.nameNodes.flatMap (boundNames source) := by
    rw [← heq]
    exact List.mem_map_of_mem hname
  obtain ⟨other, hother, hbound⟩ := List.mem_flatMap.mp hrecorded
  obtain ⟨m, hm, hidentifier, htext⟩ := exists_identifier_of_mem_boundNames hbound
  have hword := h.identifier other hother m hm hidentifier
  rw [htext, h.other name hname hkind] at hword
  contradiction

/-- A text that is not empty is what its node stands for exactly if the node is no string. -/
theorem text_eq_spelledName_iff {source : String} {n : Node} (h : n.text source ≠ "") :
    n.text source = n.spelledName source ↔ n.kind ≠ "string" := by
  rw [spelledName]
  split
  next hstring =>
    refine iff_of_false (fun heq => ?_) (not_not_intro hstring)
    have hlength := congrArg String.length heq
    rw [String.length_ofList, List.length_dropLast, List.length_tail, String.length_toList] at hlength
    apply h
    rw [← String.length_eq_zero_iff]
    omega
  next hother => exact iff_of_true rfl hother

/-- What is not a string is spelled as it is written. -/
theorem spelledName_of_ne_string (source : String) {n : Node} (h : n.kind ≠ "string") :
    n.spelledName source = n.text source :=
  if_neg h

/-- Names that are in place are recorded as they are. -/
theorem NamesInPlace.exportedNames_eq {source : String} {n : Node} (h : n.NamesInPlace source) :
    n.exportedNames source = n.moduleNames source := by
  cases h with
  | default hdefault hd hentries =>
    rw [exportedNames_of_none source hd, moduleNames_of_default source hdefault, hentries, if_pos hdefault]
    rfl
  | defaultName hdefault hd hnames =>
    rw [exportedNames_of_declaration source hd, moduleNames_of_default source hdefault, hnames]
  | declaration hdefault hd hkind hnames =>
    rw [exportedNames_of_declaration source hd, moduleNames_of_declaration source hdefault hd,
      boundByDeclaration_of_named source hkind, map_text_eq_flatMap_boundNames source hnames]
  | nothing hdefault hd hkind hnames hbound =>
    rw [exportedNames_of_declaration source hd, moduleNames_of_declaration source hdefault hd, hnames,
      hbound, List.map_nil]
  | entries hdefault hd hnamespace hnames =>
    rw [exportedNames_of_none source hd, moduleNames_of_none source hdefault hd, hnamespace,
      List.append_nil, hdefault]
    simp only [Bool.false_eq_true, if_false, List.append_nil]
    exact List.map_congr_left fun name hname =>
      (spelledName_of_ne_string source (hnames name hname)).symm

/-- If what is recorded of a statement that is spelled well are its names, these are in place. -/
theorem WellSpelled.namesInPlace {source : String} {n : Node} (h : n.WellSpelled source)
    (heq : n.exportedNames source = n.moduleNames source) : n.NamesInPlace source := by
  cases hdefault : n.isDefault with
  | true =>
    rw [moduleNames_of_default source hdefault] at heq
    cases hd : n.child? .declaration with
    | some d =>
      rw [exportedNames_of_declaration source hd] at heq
      exact .defaultName hdefault hd heq
    | none =>
      rw [exportedNames_of_none source hd, if_pos hdefault, List.append_left_eq_self,
        List.map_eq_nil_iff] at heq
      exact .default hdefault hd heq
  | false =>
    cases hd : n.child? .declaration with
    | some d =>
      have hspelled := h.declaration d hd
      rw [exportedNames_of_declaration source hd, moduleNames_of_declaration source hdefault hd] at heq
      by_cases hkind : d.kind ∈ namelessKinds
      · have hnames := hspelled.nameless hkind
        rw [hnames, List.map_nil] at heq
        exact .nothing hdefault hd hkind hnames heq.symm
      · refine .declaration hdefault hd hkind fun name hname => ?_
        by_contra hother
        rw [boundByDeclaration_of_named source hkind] at heq
        exact hspelled.map_text_ne hname hother heq
    | none =>
      rw [exportedNames_of_none source hd, moduleNames_of_none source hdefault hd, hdefault] at heq
      simp only [Bool.false_eq_true, if_false, List.append_nil] at heq
      -- a name for a module as a whole would make the one list longer than the other
      have hlength := congrArg List.length heq
      rw [List.length_map, List.length_map, List.length_append] at hlength
      have hnamespace : n.namespaceNames = [] := List.length_eq_zero_iff.mp (by omega)
      rw [hnamespace, List.append_nil] at heq
      refine .entries hdefault hd hnamespace fun name hname => ?_
      rw [← text_eq_spelledName_iff (h.entry name hname)]
      exact List.map_inj_left.mp heq name hname

/-- The exports of a statement are those of its module exactly if their names are. -/
theorem exports_eq_moduleExports_iff_names (source : String) {n : Node} (h : n.kind = "export_statement") :
    n.exports source = n.moduleExports source ↔ n.exportedNames source = n.moduleNames source := by
  rw [exports, if_pos h, moduleExports, line]
  exact (List.map_injective_iff.mpr fun _ _ h => (Export.mk.inj h).2).eq_iff

/-- A node that is no export statement adds nothing to the exports. -/
theorem flatMap_exports (source : String) (root : Node) :
    root.preorder.flatMap (exports source) = root.exportStatements.flatMap (exports source) := by
  rw [exportStatements]
  induction root.preorder with
  | nil => rfl
  | cons n nodes ih =>
    rw [List.flatMap_cons, List.filter_cons, ih]
    split
    next => rw [List.flatMap_cons]
    next hkind =>
      rw [exports, if_neg (by simpa using hkind), List.nil_append]

/-- A tree without fault gives facts. The exports among them are those recorded of its export statements,
of each of them once and in document order. What is recorded of a statement are the exports that the module
has by it, at its line, if the names are in place; and where they are not, it is something else if the
statement is spelled well. -/
theorem exports_eq_moduleExports_iff (source : String) {root : Node} (hsound : root.faulty = false) :
    ∃ facts, root.readFacts source = .ok facts ∧
      facts.exports = root.exportStatements.flatMap (exports source) ∧
      ∀ n ∈ root.exportStatements,
        (n.NamesInPlace source → n.exports source = n.moduleExports source) ∧
        (n.WellSpelled source → n.exports source = n.moduleExports source → n.NamesInPlace source) := by
  refine ⟨root.facts source, if_neg (by simp [hsound]), flatMap_exports source root, fun n hn => ?_⟩
  have hkind : n.kind = "export_statement" := of_decide_eq_true (List.mem_filter.mp hn).2
  rw [exports_eq_moduleExports_iff_names source hkind]
  exact ⟨NamesInPlace.exportedNames_eq, WellSpelled.namesInPlace⟩

/-- A default export of a class that has a name, a declaration by a pattern, and a clause. The class is
recorded under its own name and the pattern as it is written; only the clause is recorded right. -/
theorem exports_eq_moduleExports_iff_pattern :
    let source := "export default class Foo \x7b\x7d\nexport const \x7b a, b: [c] \x7d = o;\n" ++
      "export \x7b x as y \x7d;\n"
    let node (kind : String) (roles : List Role) (row start stop : ℕ) (children : List Node) : Node :=
      mk ⟨kind, true, .sound, false, roles, row, start, stop⟩ children
    let token (kind : String) (row start stop : ℕ) : Node :=
      mk ⟨kind, false, .sound, false, [], row, start, stop⟩ []
    let byDefault := node "export_statement" [] 0 0 27 [token "export" 0 0 6, token "default" 0 7 14,
      node "class_declaration" [.declaration] 0 15 27 [token "class" 0 15 20,
        node "type_identifier" [.name] 0 21 24 [], node "class_body" [.body] 0 25 27 []]]
    let byPattern := node "export_statement" [] 1 28 59 [token "export" 1 28 34,
      node "lexical_declaration" [.declaration] 1 35 59 [token "const" 1 35 40,
        node "variable_declarator" [] 1 41 58 [node "object_pattern" [.name] 1 41 54
            [node "shorthand_property_identifier_pattern" [] 1 43 44 [], token "," 1 44 45,
              node "pair_pattern" [] 1 46 52 [node "property_identifier" [] 1 46 47 [],
                token ":" 1 47 48, node "array_pattern" [] 1 49 52 [node "identifier" [] 1 50 51 []]]],
          token "=" 1 55 56, node "identifier" [] 1 57 58 []]]]
    let byClause := node "export_statement" [] 2 60 78 [token "export" 2 60 66,
      node "export_clause" [] 2 67 77 [node "export_specifier" [] 2 69 75
        [node "identifier" [.name] 2 69 70 [], token "as" 2 71 73,
          node "identifier" [.newName] 2 74 75 []]]]
    let root := node "program" [] 0 0 79 [byDefault, byPattern, byClause]
    root.faulty = false ∧ byPattern.WellSpelled source ∧ byClause.WellSpelled source ∧
      ∃ facts, root.readFacts source = .ok facts ∧
        facts.exports = [⟨1, "Foo"⟩, ⟨2, "\x7b a, b: [c] \x7d"⟩, ⟨3, "y"⟩] ∧
        byDefault.moduleExports source = [⟨1, "default"⟩] ∧ ¬byDefault.NamesInPlace source ∧
        byPattern.moduleExports source = [⟨2, "a"⟩, ⟨2, "c"⟩] ∧ ¬byPattern.NamesInPlace source ∧
        byClause.moduleExports source = [⟨3, "y"⟩] ∧ byClause.NamesInPlace source := by
  intro source node token byDefault byPattern byClause root
  have hsound : root.faulty = false := by decide
  have hpattern : byPattern.WellSpelled source := by
    refine ⟨fun d hd => ?_, by decide⟩
    obtain rfl := Option.some.inj hd
    exact ⟨fun h => absurd h (by decide), by decide, by decide⟩
  have hclause : byClause.WellSpelled source := by
    refine ⟨fun d hd => ?_, by decide⟩
    cases hd
  obtain ⟨facts, hread, hexports, heach⟩ := exports_eq_moduleExports_iff source hsound
  have hstatements : root.exportStatements = [byDefault, byPattern, byClause] := rfl
  have hmem (n : Node) (hn : n ∈ [byDefault, byPattern, byClause]) : n ∈ root.exportStatements :=
    hstatements ▸ hn
  refine ⟨hsound, hpattern, hclause, facts, hread, ?_, by decide, fun h => ?_, by decide, fun h => ?_,
    by decide, ?_⟩
  · rw [hexports]
    decide
  · have heq := (heach byDefault (hmem _ (by simp))).1 h
    exact absurd heq (by decide)
  · have heq := (heach byPattern (hmem _ (by simp))).1 h
    exact absurd heq (by decide)
  · exact (heach byClause (hmem _ (by simp))).2 hclause (by decide)

end LayerAudit.Syntax.Node
