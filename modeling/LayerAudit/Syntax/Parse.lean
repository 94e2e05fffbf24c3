import LayerAudit.Syntax.Recovery

/-!
# Parsing a text

Branches take turns: each takes tokens until it is ahead of the others, and then the branches are
compared, merged and thinned out. The parse is over when no branch is left or when a finished tree
is better than every branch. Every text gets a tree; `Node.faulty` tells whether the text is well
formed.
-/

namespace LayerAudit.Syntax

namespace Parser

/-- The token at a branch's position. The token read last is taken again where reading it anew could
make no difference. -/
def lookahead (i : Nat) : Parser Fragment := do
  let task ← read
  let g := task.grammar
  let here ← position i
  let s ← state i
  let recent := (← get).recent
  if let some (place, token) := recent then
    let reusable := place = here.bytes && g.acts s token.symbol &&
      g.mode token.info.firstReadIn = g.mode s &&
      (token.info.firstSymbol != Symbol.word || (!token.info.keyword && token.info.readIn = s))
    if reusable then return token
  let token := Token.read g task.contextual ⟨task.source, here, s, ← advanced i⟩
  modify fun p => { p with recent := some (here.bytes, token) }
  return token

/-- What a branch's actions came to. -/
inductive Effect where
  /-- The branch has taken its token, or is done for. -/
  | settled
  /-- Constructs were completed; the first new branch, if one is left. -/
  | completed (newest : Option Nat)
  /-- Nothing could be done. -/
  | idle

/-- Performs the actions that a state has at a token, until one settles the branch. -/
def perform (i : Nat) (token : Fragment) (effect : Effect) : List Action → Parser Effect
  | [] => return effect
  | action :: rest => do
    match action with
    | .shift _ true => perform i token effect rest
    | .shift next false =>
      push i (some (if token.extra then token.withExtra false else token)) next
      return .settled
    | .shiftExtra =>
      push i (some (if token.extra then token else token.withExtra true)) (← state i)
      return .settled
    | .reduce symbol count precedence production =>
      let opened ← reduce i symbol count precedence production
      let newest :=
        match opened, effect with
        | some j, _ => some j
        | none, .completed earlier => earlier
        | none, _ => none
      perform i token (.completed newest) rest
    | .accept =>
      accept i token
      return .settled
    | .recover =>
      recover i token
      return .settled

/-- Lets a branch deal with a token. A keyword that is of no use is tried as a plain word. -/
def deal (i : Nat) : Nat → Fragment → Parser Unit
  | 0, _ => halt i
  | limit + 1, token => do
    let g ← grammar
    let s ← state i
    match ← perform i token .idle (g.actions s token.symbol) with
    | .settled => return
    | .completed (some j) =>
      replace j i
      deal i limit token
    | .completed none => halt i
    | .idle =>
      if token.info.keyword && token.symbol != Symbol.word && g.acts s Symbol.word then
        deal i limit (token.asWord g)
      else if s = 0 then recover i token
      else
        let weight := (← top i).weight
        modifyBranch i ({ · with status := .paused token, weightAtFault := weight })

/-- Lets a branch take tokens until it is ahead of the place reached before. Gives the place
reached. -/
def catchUp (i : Nat) : Nat → Nat → Parser Nat
  | 0, reached => return reached
  | limit + 1, reached => do
    if !(i < (← branchCount)) || !(← branch i).isActive then return reached
    deal i (← patience) (← lookahead i)
    let here ← if i < (← branchCount) then pure (← position i).bytes else pure 0
    if reached < here || (0 < i && here = reached) then return here
    catchUp i limit reached

/-- Lets every branch catch up, also those that come up meanwhile. -/
def catchUpAll : Nat → Nat → Nat → Parser Nat
  | 0, _, reached => return reached
  | limit + 1, i, reached => do
    if (← branchCount) ≤ i then return reached
    let reached ← catchUp i (← patience) reached
    catchUpAll limit (i + 1) reached

/-- Compares a branch with those before it from the `j`-th on: the worse of two is dropped, those
that agree are merged, and the better come first. Gives where the branch is now, if it is left. -/
def settle (own : Rating) : Nat → Nat → Nat → Parser (Option Nat)
  | 0, i, _ => return some i
  | limit + 1, i, j => do
    if i ≤ j then return some i
    match (← rating j).compare own with
    | .takeLeft =>
      dropBranch i
      return none
    | .preferLeft | .even =>
      if ← merge j i then return none else settle own limit i (j + 1)
    | .preferRight =>
      if ← merge j i then return none
      modify fun p => { p with branches := p.branches.swapIfInBounds i j }
      settle own limit i (j + 1)
    | .takeRight =>
      dropBranch j
      settle own limit (i - 1) j

/-- Compares all branches. Gives the least cost of a branch that goes on as it is. -/
def settleAll : Nat → Nat → Option Nat → Parser (Option Nat)
  | 0, _, least => return least
  | limit + 1, i, least => do
    if (← branchCount) ≤ i then return least
    if (← branch i).isHalted then
      dropBranch i
      settleAll limit i least
    else
      let own ← rating i
      let least :=
        if own.lost then least
        else some ((least.map (min own.cost)).getD own.cost)
      match ← settle own (2 * i + 1) i 0 with
      | some j => settleAll limit (j + 1) least
      | none => settleAll limit i least

/-- Repairs the first branch if all are paused, and drops every other paused one. Gives the least
cost of a branch that goes on. -/
def resume (count : Nat) (goesOn : Bool) (least : Option Nat) : Nat → Nat → Parser (Option Nat)
  | 0, _ => return least
  | limit + 1, i => do
    if count ≤ i then return least
    match (← branch i).status with
    | .paused token =>
      if !goesOn && decide ((← get).finishedCount < maxBranches) then
        let price ← cost i
        modifyBranch i ({ · with status := .active })
        repair i token
        resume count true (some price) limit (i + 1)
      else
        dropBranch i
        resume (count - 1) goesOn least limit i
    | _ => resume count true least limit (i + 1)

/-- Thins out the branches. Gives the least cost of a branch that goes on. -/
def condense : Parser (Option Nat) := do
  let least ← settleAll (2 * (← branchCount) + 2) 0 none
  modify fun p => { p with branches := p.branches.extract 0 maxBranches }
  let count ← branchCount
  resume count false least (2 * count + 2) 0

/-- Lets the branches take turns until the parse is over. -/
def run (reached : Nat) : Nat → Parser Unit
  | 0 => return
  | limit + 1 => do
    let reached ← catchUpAll (← patience) 0 reached
    let before ← branchCount
    let least ← condense
    let isOver :=
      match (← get).finished, least with
      | some f, some c => decide (f.cost < c)
      | some _, none => true
      | none, _ => false
    if isOver || before = 0 then return
    run reached limit

/-- The tree of a text. -/
def parse (task : Task) : Fragment :=
  let start : Parsing :=
    ⟨#[Stack.bottom 1], #[⟨0, none, 0, .active⟩], none, 0, none⟩
  let limit := 64 * (task.source.utf8ByteSize + 64)
  match ((run 0 limit) task start).2.finished with
  | some f => f
  | none => Fragment.construct task.grammar task.grammar.unexpected [] 0

end Parser

end LayerAudit.Syntax
