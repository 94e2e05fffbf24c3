import LayerAudit.Syntax.Parser

/-!
# Repairing a reading

A branch that has no use for its token is repaired in one of three ways, and the costs decide which
is kept: a token is invented that lets it go on; the branch goes back to a state that it was in
before, and what it read since is wrapped as misplaced; or the token itself is passed over.
-/

namespace LayerAudit.Syntax.Parser

/-- How far down the stack a branch may go back. -/
def maxDepth : Nat := 16

/-- A construct that can be completed: its symbol, its number of parts, its rank and its
production. -/
structure Completion where
  symbol : Symbol
  count : Nat
  precedence : Int
  production : Nat

/-- Takes an action at some terminal into account: whether a token can be taken, and which
constructs with parts can be completed. -/
def notice (seen : Bool × Array Completion) (action : Action) : Bool × Array Completion :=
  match action with
  | .shift _ repeating => (seen.1 || !repeating, seen.2)
  | .recover => (true, seen.2)
  | .reduce symbol count precedence production =>
    if count = 0 || seen.2.any fun c => c.symbol = symbol && c.count = count then seen
    else (seen.1, seen.2.push ⟨symbol, count, precedence, production⟩)
  | _ => seen

/-- What a state can do at a terminal; the end of the text stands for any terminal. -/
def prospects (g : Grammar) (state : Nat) (symbol : Symbol) : Bool × Array Completion :=
  let terminals :=
    if symbol = Symbol.endOfText then (List.range g.terminalCount).drop 1 else [symbol]
  terminals.foldl (fun seen t => (g.actions state t).foldl notice seen) (false, #[])

/-- Completes constructs wherever the terminal, or any terminal, allows it, on a branch and on those
that come of it. Tells whether one of them can then take a token; those that cannot are dropped if
the terminal is known. -/
def completeAll (symbol : Symbol) (origin first : Nat) : Nat → Nat → Nat → Bool → Parser Bool
  | 0, _, _, able => return able
  | limit + 1, round, i, able => do
    let count ← branchCount
    if count ≤ i then return able
    if ← mergeInto ((List.range i).drop first) i then
      completeAll symbol origin first limit (round + 1) i able
    else
      let (shifts, completions) := prospects (← grammar) (← state i) symbol
      let mut last := none
      for c in completions do
        last ← reduce i c.symbol c.count c.precedence c.production
      let following := if i = origin then count else i + 1
      if shifts then completeAll symbol origin first limit (round + 1) following true
      else
        match last, decide (round < maxBranches) with
        | some j, true =>
          replace j i
          completeAll symbol origin first limit (round + 1) i able
        | _, _ =>
          if symbol != Symbol.endOfText then dropBranch i
          completeAll symbol origin first limit (round + 1) following able

/-- Completes all constructs that can be completed on a branch before a terminal. -/
def complete (i : Nat) (symbol : Symbol) : Parser Bool := do
  completeAll symbol i (← branchCount) (← patience) 0 i false

/-- Tries to invent a token on a branch, one terminal after the other, so that the lookahead can
then be taken; tells whether one was invented. -/
def invent (i : Nat) (lookahead : Symbol) : List Symbol → Parser Bool
  | [] => return false
  | symbol :: rest => do
    let g ← grammar
    let here ← state i
    let next := g.target here symbol
    if next = 0 || next = here || !g.reducesAt next lookahead then invent i lookahead rest
    else
      let j ← copy i
      push j (some (Fragment.invented g symbol)) next
      if ← complete j lookahead then return true else invent i lookahead rest

/-- Wraps the misplaced text on top of a branch's stack up into the fragments to come: pops it, and
gives its parts. -/
def popMisplaced (i : Nat) : Parser (List Fragment) := do
  let g ← grammar
  let p ← get
  let start := (p.branches.getD i default).top
  let isMisplaced (f : Fragment) : Bool := f.symbol = g.unexpected
  if (p.stack.vertex start).links.any fun l => (l.fragment.map isMisplaced).getD false then
    let visit (found : Bool) (d : Descent) : Bool × Move :=
      match d.passed with
      | [] => (found, ⟨false, false⟩)
      | f :: _ => if !found && isMisplaced f then (true, ⟨true, true⟩) else (found, ⟨false, true⟩)
    match ← openBranches i (Stack.landings (p.stack.walk visit false start).2) with
    | [] => return []
    | (j, ways) :: _ =>
      replace j i
      return ((ways.head?.bind (·.head?)).map (·.children)).getD []
  else return []

/-- Takes a branch back to a state that it was in before; tells whether that worked. What it read
since becomes misplaced text, together with any such text just below. -/
def goBack (i depth goal : Nat) : Parser Bool := do
  let g ← grammar
  let mut arrived := false
  for (j, ways) in ← pop i depth do
    if (← state j) != goal then halt j
    else
      let before ← popMisplaced j
      let (parts, extras) := Fragment.splitTrailingExtras (before ++ ways.headD [])
      if !parts.isEmpty then
        push j (some ((Fragment.construct g g.unexpected parts 0).withExtra true)) goal
      for extra in extras do
        push j (some extra) goal
      arrived := true
  return arrived

/-- Goes back to the nearest earlier state that has use for the lookahead, if that is worth its
cost; tells whether the branch went back. -/
def goBackToUse (i : Nat) (lookahead : Symbol) (branches read faults : Nat) (here : Extent) :
    List Stack.Earlier → Parser Bool
  | [] => return false
  | e :: rest => do
    let others := goBackToUse i lookahead branches read faults here rest
    if e.state = 0 || e.position.bytes = here.bytes then others
    else
      let mut taken := false
      for j in [0:branches] do
        if (← state j) = e.state && (← position j).bytes = here.bytes then taken := true
      if taken then others
      else
        let price := faults + e.depth * Fragment.costOfSkippedNode +
          (here.bytes - e.position.bytes) +
          (here.rows - e.position.rows) * Fragment.costOfSkippedRow
        if ← outdone i false price then return false
        else if (← grammar).acts e.state lookahead then
          if ← goBack i (if 0 < read then e.depth + 1 else e.depth) e.state then return true
          else others
        else others

/-- Takes a branch that is lost past its lookahead. -/
def skipToken (i : Nat) (lookahead : Fragment) (read : Nat) : Parser Unit := do
  let g ← grammar
  let token :=
    if (g.actions 1 lookahead.symbol).getLast? = some .shiftExtra then lookahead.withExtra true
    else lookahead
  let skipped := Fragment.construct g g.skipped [token] 0
  if 0 < read then
    match ← pop i 1 with
    | [] => push i (some skipped) 0
    | (j, ways) :: _ =>
      modify fun p => { p with branches := p.branches.extract 0 (j + 1) }
      replace j i
      push i (some (Fragment.construct g g.skipped (ways.headD [] ++ [skipped]) 0)) 0
  else push i (some skipped) 0

/-- Lets a lost branch deal with a token: it goes back to a state that has use for it, finishes if
the text is over, or passes over the token. -/
def recover (i : Nat) (lookahead : Fragment) : Parser Unit := do
  let g ← grammar
  let before ← branchCount
  let here ← position i
  let read ← progress i
  let faults ← cost i
  let wentBack ←
    match (← branch i).earlier with
    | some earlier =>
      if lookahead.symbol = g.unexpected then pure false
      else goBackToUse i lookahead.symbol before read faults here earlier
    | none => pure false
  modify fun p =>
    { p with
      branches := p.branches.extract 0 before ++
        (p.branches.extract before p.branches.size).filter (·.isActive) }
  if lookahead.symbol = Symbol.endOfText then
    push i (some (Fragment.construct g g.unexpected [] 0)) 1
    accept i lookahead
  else if wentBack && decide (maxBranches < (← branchCount)) then halt i
  else
    let total := lookahead.total
    let price := faults + Fragment.costOfSkippedNode + total.bytes +
      total.rows * Fragment.costOfSkippedRow
    if ← outdone i false price then halt i else skipToken i lookahead read

/-- Marks some branches as lost, after trying to invent a token on each until one is found. -/
def loseAll (lookahead : Symbol) (invented : Bool) : List Nat → Parser Unit
  | [] => return
  | i :: rest => do
    let terminals := (List.range (← grammar).terminalCount).drop 1
    let invented ← if invented then pure true else invent i lookahead terminals
    push i none 0
    loseAll lookahead invented rest

/-- Takes up a branch that has no use for its token. -/
def repair (i : Nat) (lookahead : Fragment) : Parser Unit := do
  let before ← branchCount
  let _ ← complete i Symbol.endOfText
  let after ← branchCount
  loseAll lookahead.info.firstSymbol false (i :: (List.range after).drop before)
  for _ in [before:after] do
    let _ ← merge i before
  let p ← get
  let earlier := p.stack.earlier (p.branches.getD i default).top maxDepth
  modifyBranch i ({ · with earlier := some earlier })
  recover i lookahead

end LayerAudit.Syntax.Parser
