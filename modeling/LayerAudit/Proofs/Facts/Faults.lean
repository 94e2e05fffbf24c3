import LayerAudit.Proofs.Facts.DocumentOrder
import LayerAudit.Proofs.Text.Lines

/-!
# The wording of faults

A fault is told by the kind of the token that the text lacks, which is a name of the grammar, and not by
anything the text holds. The grammar of TypeScript is read from a list with one name on each line, so no
name has a line break in it, and what is said of a faulty text fits on one line whatever the text is.
-/

namespace LayerAudit

open Text

namespace Syntax

namespace Node

/-- A node is among the nodes of its own tree. -/
theorem mem_preorder_self (n : Node) : n ∈ n.preorder := by
  cases n
  exact List.mem_cons_self

/-- The fault to report of some trees is one of their nodes if that is so of each of them. -/
theorem mem_preorderAll_of_firstFaultAmong {nodes : List Node} {bad : Node}
    (hnodes : ∀ n ∈ nodes, n.firstFault ∈ n.preorder) (h : firstFaultAmong nodes = some bad) :
    bad ∈ preorderAll nodes := by
  induction nodes with
  | nil => cases h
  | cons n rest ih =>
    rw [preorderAll, List.mem_append]
    rw [firstFaultAmong] at h
    split at h
    · rw [← Option.some.inj h]
      exact Or.inl (mem_preorder_self n)
    · split at h
      · rw [← Option.some.inj h]
        exact Or.inl (hnodes n List.mem_cons_self)
      · exact Or.inr (ih (fun m hm => hnodes m (List.mem_cons_of_mem n hm)) h)

/-- The fault to report of a tree is one of its nodes. -/
theorem firstFault_mem_preorder (root : Node) : root.firstFault ∈ root.preorder := by
  induction root with
  | mk label children ih =>
    rw [firstFault, preorder, List.mem_cons]
    cases hamong : firstFaultAmong children with
    | none => exact Or.inl rfl
    | some bad => exact Or.inr (mem_preorderAll_of_firstFaultAmong ih hamong)

end Node

namespace Fragment

variable {g : Grammar} {n : Node}

mutual

/-- The kinds of a tree's nodes are names of the grammar. -/
theorem exists_kind_eq_of_mem_toNode (shownAs : Option Symbol) (roles : List Role) (origin : Extent) :
    (f : Fragment) → n ∈ (f.toNode g shownAs roles origin).preorder →
      ∃ symbol, n.kind = (g.info symbol).name
  | mk info children, h => by
    rw [toNode, Node.preorder, List.mem_cons] at h
    rcases h with rfl | hbelow
    · exact ⟨_, rfl⟩
    · rcases exists_kind_eq_of_mem_toNodes _ _ _ _ _ children hbelow with hkind | hnone
      · exact hkind
      · exact nomatch hnone

/-- The nodes made of several fragments have kinds that the grammar names, next to those already there. -/
theorem exists_kind_eq_of_mem_toNodes (production : ℕ) (roles : List (Role × ℕ)) (place passed : ℕ)
    (origin : Extent) {others : List Node} : (children : List Fragment) →
      n ∈ Node.preorderAll (toNodes g production roles place passed origin children others) →
      (∃ symbol, n.kind = (g.info symbol).name) ∨ n ∈ Node.preorderAll others
  | [], h => Or.inr h
  | f :: rest, h => by
    rw [toNodes] at h
    generalize (if f.extra = true then none else g.aliasAt production place) = shownAs at h
    split at h
    · rcases List.mem_append.mp h with hfirst | hrest
      · exact Or.inl (exists_kind_eq_of_mem_toNode _ _ _ f hfirst)
      · exact exists_kind_eq_of_mem_toNodes _ _ _ _ _ rest hrest
    · rcases exists_kind_eq_of_mem_hiddenNodes _ _ _ f h with hkind | hrest
      · exact Or.inl hkind
      · exact exists_kind_eq_of_mem_toNodes _ _ _ _ _ rest hrest

/-- The nodes made of what is below a fragment have kinds that the grammar names, next to those already
there. -/
theorem exists_kind_eq_of_mem_hiddenNodes (roles : List (Role × ℕ)) (passed : ℕ) (origin : Extent)
    {others : List Node} : (f : Fragment) →
      n ∈ Node.preorderAll (hiddenNodes g roles passed origin f others) →
      (∃ symbol, n.kind = (g.info symbol).name) ∨ n ∈ Node.preorderAll others
  | mk info children, h => by
    rw [hiddenNodes] at h
    exact exists_kind_eq_of_mem_toNodes _ _ _ _ _ children h

end

end Fragment

/-- The kinds of the nodes of a text's tree fit on one line if the names of the grammar do. -/
theorem Grammar.isOneLine_kind_of_mem_tree {g : Grammar}
    (hg : ∀ symbol, IsOneLine (g.info symbol).name) {contextual : Token.Symbols} {source : String}
    {n : Node} (h : n ∈ (g.tree contextual source).preorder) : IsOneLine n.kind := by
  obtain ⟨symbol, hkind⟩ := Fragment.exists_kind_eq_of_mem_toNode none [] .zero _ h
  rw [hkind]
  exact hg symbol

namespace TypeScript

/-- A name that is read from a line is made up of characters of that line. -/
theorem toList_name_readSymbol_subset (line : List Char) :
    (readSymbol line).name.toList ⊆ line := by
  unfold readSymbol
  split <;> rw [String.toList_ofList]
  · exact List.subset_cons_self _ _
  · exact List.subset_cons_self _ _
  · exact List.drop_subset 1 _

/-- The names of the symbols fit on one line. -/
theorem isOneLine_name_of_mem_symbols {info : SymbolInfo} (h : info ∈ symbols) :
    IsOneLine info.name := by
  rw [symbols, List.mem_toArray] at h
  obtain ⟨line, hline, rfl⟩ := List.mem_map.mp h
  exact fun hbreak => not_mem_of_mem_splitOn hline (toList_name_readSymbol_subset line hbreak)

/-- The symbols of the grammar are those listed. -/
theorem symbols_grammar : grammar.symbols = symbols := rfl

/-- The names by which the grammar shows symbols fit on one line. -/
theorem isOneLine_name_info (symbol : Symbol) : IsOneLine (grammar.info symbol).name := by
  rw [Grammar.info, symbols_grammar]
  split
  · decide
  · rw [Array.getD_eq_getD_getElem?]
    cases hsymbol : symbols[symbol]? with
    | none => decide
    | some info => exact isOneLine_name_of_mem_symbols (Array.mem_of_getElem? hsymbol)

/-- The kinds of the nodes of a source's tree fit on one line. -/
theorem isOneLine_kind_of_mem_tree {source : String} {n : Node} (h : n ∈ (tree source).preorder) :
    IsOneLine n.kind := by
  rw [tree] at h
  exact Grammar.isOneLine_kind_of_mem_tree isOneLine_name_info h

end TypeScript

end Syntax

/-- What is said of a fault fits on one line if the kind of the missing token does. -/
theorem SyntaxFault.isOneLine_message {f : SyntaxFault} (h : ∀ kind ∈ f.missing, IsOneLine kind) :
    IsOneLine f.message := by
  unfold message
  rw [isOneLine_append, isOneLine_append, isOneLine_append]
  refine ⟨⟨⟨by decide, isOneLine_toString f.line⟩, by decide⟩, ?_⟩
  split
  next kind hkind =>
    rw [isOneLine_append, isOneLine_append]
    exact ⟨⟨by decide, h kind hkind⟩, by decide⟩
  · decide

/-- What is said of a source without facts fits on one line. -/
theorem Facts.isOneLine_message_of_ofTypeScript {source : String} {f : SyntaxFault}
    (h : ofTypeScript source = .error f) : IsOneLine f.message := by
  have hkinds := @Syntax.TypeScript.isOneLine_kind_of_mem_tree source
  rw [ofTypeScript] at h
  generalize Syntax.TypeScript.tree source = root at h hkinds
  rw [Syntax.Node.readFacts] at h
  split at h
  · obtain rfl := Except.error.inj h
    refine SyntaxFault.isOneLine_message fun kind hkind => ?_
    rw [Syntax.Node.fault, Option.mem_def] at hkind
    split at hkind
    · rw [← Option.some.inj hkind]
      exact hkinds (Syntax.Node.firstFault_mem_preorder root)
    · exact nomatch hkind
  · exact nomatch h

end LayerAudit
