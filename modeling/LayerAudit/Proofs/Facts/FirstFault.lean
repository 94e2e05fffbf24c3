import LayerAudit.Proofs.Facts.Faults

/-!
# The fault that is reported

A tree with a fault states no facts. What is said instead is about one of its nodes, which is looked for
from the root downwards: among the children of a node, the first one that is faulty decides where the
search goes on.

Main statement: if faultiness says that a node at fault is there or further down, the search ends at the
first node at fault in document order below the root, and at the root itself only if it alone is at fault.
The line and the wording are those of this node. The search never comes to an end at a node that fits.
-/

namespace LayerAudit.Syntax.Node

/-- Whether a node itself is at fault: its text fits nowhere, or it stands for a token that is missing. -/
def atFault (n : Node) : Bool := n.label.standing != .sound

/-- The nodes strictly below a node, in document order. -/
def nodesBelow (n : Node) : List Node := preorderAll n.children

/-- A tree in which the faulty nodes are those with a node at fault among themselves and what is below
them. -/
def ShowsFaults (root : Node) : Prop :=
  ∀ n ∈ root.preorder, n.faulty = true ↔ ∃ m ∈ n.preorder, m.atFault = true

/-- The first node at fault that is strictly below the root, or else the root. -/
inductive IsFirstFault (root : Node) : Node → Prop where
  | below {before after : List Node} {bad : Node} (hsplit : root.nodesBelow = before ++ bad :: after)
    (hbefore : ∀ n ∈ before, n.atFault = false) (hbad : bad.atFault = true) : IsFirstFault root bad
  | root (hbelow : ∀ n ∈ root.nodesBelow, n.atFault = false) (hroot : root.atFault = true) :
    IsFirstFault root root

/-- A node is met before all that lies below it. -/
theorem preorder_eq (n : Node) : n.preorder = n :: n.nodesBelow := by
  cases n
  rw [preorder]
  rfl

/-- What is met in the tree of a node is met among the nodes that it belongs to. -/
theorem mem_preorderAll_of_mem {nodes : List Node} {n m : Node} (hn : n ∈ nodes)
    (hm : m ∈ n.preorder) : m ∈ preorderAll nodes := by
  induction nodes with
  | nil => cases hn
  | cons first rest ih =>
    rw [preorderAll, List.mem_append]
    rcases List.mem_cons.mp hn with rfl | hrest
    · exact Or.inl hm
    · exact Or.inr (ih hrest)

/-- Of a tree that shows its faults, the trees below the root show theirs. -/
theorem ShowsFaults.of_mem_children {root child : Node} (h : root.ShowsFaults)
    (hchild : child ∈ root.children) : child.ShowsFaults := by
  intro n hn
  apply h
  rw [preorder_eq]
  exact List.mem_cons_of_mem root (mem_preorderAll_of_mem hchild hn)

/-- A tree that shows its faults and has none holds no node at fault. -/
theorem ShowsFaults.find?_preorder_eq_none {n : Node} (h : n.ShowsFaults) (hsound : n.faulty = false) :
    n.preorder.find? atFault = none := by
  rw [List.find?_eq_none]
  intro m hm hbad
  have hfaulty := (h n (mem_preorder_self n)).mpr ⟨m, hm, hbad⟩
  rw [hsound] at hfaulty
  contradiction

/-- A faulty tree that shows its faults holds a node at fault. -/
theorem ShowsFaults.exists_find?_preorder {n : Node} (h : n.ShowsFaults) (hfaulty : n.faulty = true) :
    ∃ bad, n.preorder.find? atFault = some bad := by
  rw [← Option.isSome_iff_exists, List.find?_isSome]
  exact (h n (mem_preorder_self n)).mp hfaulty

/-- The search among some trees finds the first node at fault in all of them, if that is what the search
in each of them comes to. -/
theorem firstFaultAmong_eq_find? {nodes : List Node} (hshows : ∀ n ∈ nodes, n.ShowsFaults)
    (hsearch : ∀ n ∈ nodes, n.firstFault = (n.nodesBelow.find? atFault).getD n) :
    firstFaultAmong nodes = (preorderAll nodes).find? atFault := by
  induction nodes with
  | nil => rfl
  | cons n rest ih =>
    have hrest := ih (fun m hm => hshows m (List.mem_cons_of_mem n hm))
      (fun m hm => hsearch m (List.mem_cons_of_mem n hm))
    have hn := hshows n List.mem_cons_self
    rw [firstFaultAmong, preorderAll, List.find?_append]
    split
    next hbad =>
      rw [preorder_eq, List.find?_cons_of_pos (p := atFault) hbad]
      rfl
    next hfits =>
      split
      next hfaulty =>
        obtain ⟨bad, hbad⟩ := hn.exists_find?_preorder hfaulty
        have hbelow : n.nodesBelow.find? atFault = some bad := by
          rwa [preorder_eq, List.find?_cons_of_neg (p := atFault) hfits] at hbad
        rw [hbad, hsearch n List.mem_cons_self, hbelow]
        rfl
      next hsound =>
        rw [hn.find?_preorder_eq_none (Bool.not_eq_true _ ▸ hsound), hrest]
        rfl

/-- The search in a tree finds the first node at fault below the root, or else gives the root. -/
theorem ShowsFaults.firstFault_eq {root : Node} (h : root.ShowsFaults) :
    root.firstFault = (root.nodesBelow.find? atFault).getD root := by
  induction root with
  | mk label nodes ih =>
    have hnodes (n : Node) (hn : n ∈ nodes) : n.ShowsFaults := h.of_mem_children hn
    rw [firstFault, firstFaultAmong_eq_find? hnodes fun n hn => ih n hn (hnodes n hn)]
    rfl

/-- In a faulty tree that shows its faults, the search ends at the first node at fault, and nowhere
else. -/
theorem ShowsFaults.firstFault_eq_iff {root bad : Node} (h : root.ShowsFaults)
    (hfaulty : root.faulty = true) : root.firstFault = bad ↔ root.IsFirstFault bad := by
  rw [h.firstFault_eq]
  constructor
  · rintro rfl
    cases hfind : root.nodesBelow.find? atFault with
    | some bad =>
      obtain ⟨hbad, before, after, hsplit, hbefore⟩ := List.find?_eq_some_iff_append.mp hfind
      exact .below hsplit (fun n hn => by simpa using hbefore n hn) hbad
    | none =>
      obtain ⟨bad, hbad⟩ := h.exists_find?_preorder hfaulty
      refine .root (fun n hn => by simpa using List.find?_eq_none.mp hfind n hn) ?_
      by_contra hfits
      rw [preorder_eq, List.find?_cons_of_neg hfits, hfind] at hbad
      contradiction
  · intro hfirst
    cases hfirst with
    | @below before after bad hsplit hbefore hbad =>
      have hfind : root.nodesBelow.find? atFault = some bad :=
        List.find?_eq_some_iff_append.mpr
          ⟨hbad, before, after, hsplit, fun n hn => by simp [hbefore n hn]⟩
      rw [hfind]
      rfl
    | root hbelow hroot =>
      have hfind : root.nodesBelow.find? atFault = none :=
        List.find?_eq_none.mpr fun n hn => by simp [hbelow n hn]
      rw [hfind]
      rfl

/-- The first fault of a tree is at fault. -/
theorem IsFirstFault.atFault {root bad : Node} (h : root.IsFirstFault bad) : bad.atFault = true := by
  cases h with
  | below _ _ hbad => exact hbad
  | root _ hroot => exact hroot

/-- How it is worded that a node is at fault. -/
theorem message_of_node (bad : Node) :
    SyntaxFault.message
        ⟨bad.line, if bad.label.standing = .missing then some bad.kind else none⟩ =
      "syntax error at line " ++ toString (bad.label.row + 1) ++ ": " ++
        if bad.label.standing = .missing then "missing `" ++ bad.kind ++ "`"
        else "unexpected syntax" := by
  by_cases hmissing : bad.label.standing = .missing
  · rw [if_pos hmissing, if_pos hmissing]
    rfl
  · rw [if_neg hmissing, if_neg hmissing]
    rfl

/-- Of a faulty tree that shows its faults, reading gives no facts but a fault. It is that of the first
node at fault below the root, or of the root if none below it is at fault: the fault has the line of this
node, names a missing token exactly if the node stands for one, and is worded so. -/
theorem readFacts_reports_first_fault (source : String) {root : Node} (hshows : root.ShowsFaults)
    (hfaulty : root.faulty = true) :
    ∃ bad fault, root.IsFirstFault bad ∧ bad.atFault = true ∧
      root.readFacts source = .error fault ∧
      fault.line = bad.label.row + 1 ∧
      (fault.missing = some bad.kind ↔ bad.label.standing = .missing) ∧
      fault.message = "syntax error at line " ++ toString (bad.label.row + 1) ++ ": " ++
        if bad.label.standing = .missing then "missing `" ++ bad.kind ++ "`"
        else "unexpected syntax" := by
  have hread : root.readFacts source = .error root.fault := if_pos hfaulty
  obtain ⟨bad, hbad⟩ : ∃ bad, root.firstFault = bad := ⟨_, rfl⟩
  have hfirst := (hshows.firstFault_eq_iff hfaulty).mp hbad
  have hfault : root.fault =
      ⟨bad.line, if bad.label.standing = .missing then some bad.kind else none⟩ := by
    rw [fault, hbad]
  refine ⟨bad, root.fault, hfirst, hfirst.atFault, hread, ?_, ?_, ?_⟩
  · rw [hfault, line]
  · rw [hfault]
    simp
  · rw [hfault, message_of_node]

/-- A parenthesis that is not closed, and then a word that fits nowhere. The closing parenthesis that is
missing lies deeper in the tree than the word, and is reported as it comes first. -/
theorem readFacts_reports_first_fault_deep :
    let source := "\n(a;\nif"
    let node (kind : String) (standing : Standing) (row start stop : ℕ) (children : List Node) : Node :=
      mk ⟨kind, true, standing, false, [], row, start, stop⟩ children
    let root := node "program" .sound 1 1 7 [node "expression_statement" .sound 1 1 4
      [node "parenthesized_expression" .sound 1 1 3 [node "(" .sound 1 1 2 [],
          node "identifier" .sound 1 2 3 [], node ")" .missing 1 3 3 []],
        node ";" .sound 1 3 4 []],
      node "ERROR" .unexpected 2 5 7 [node "if" .sound 2 5 7 []]]
    root.ShowsFaults ∧ root.faulty = true ∧
      ∃ bad fault, root.IsFirstFault bad ∧ bad.kind = ")" ∧ root.readFacts source = .error fault ∧
        fault.line = 2 ∧ fault.message = "syntax error at line 2: missing `)`" := by
  intro source node root
  have hshows : root.ShowsFaults := by
    unfold ShowsFaults
    decide
  have hfaulty : root.faulty = true := by decide
  obtain ⟨bad, fault, hfirst, -, hread, -⟩ := readFacts_reports_first_fault source hshows hfaulty
  have hbad : root.firstFault = bad := (hshows.firstFault_eq_iff hfaulty).mpr hfirst
  have hfault : fault = ⟨2, some ")"⟩ := by
    have hreads : root.readFacts source = .error ⟨2, some ")"⟩ := by decide
    exact Except.error.inj (hread.symm.trans hreads)
  refine ⟨hshows, hfaulty, bad, fault, hfirst, ?_, hread, ?_, ?_⟩
  · rw [← hbad]
    decide
  · rw [hfault]
  · rw [hfault]
    decide

end LayerAudit.Syntax.Node
