import LayerAudit.Syntax.Stack
import LayerAudit.Syntax.Token

/-!
# Parsing several readings at once

A parser holds a number of *branches*, each the top of one stack. A branch takes tokens and puts
constructs together; where the grammar allows several actions it splits, and branches that come to
agree are merged. A branch that can do nothing with its token is *paused*: it is taken up again, and
repaired, only when no other branch goes on.
-/

namespace LayerAudit.Syntax

/-- Whether a branch is at work. -/
inductive Status where
  | active
  /-- Stopped at a token that it has no use for. -/
  | paused (lookahead : Fragment)
  | halted
  deriving Inhabited

/-- One of the readings under way. -/
structure Branch where
  /-- The top of its stack. -/
  top : Nat
  /-- Where the parser was before it last lost its way. -/
  earlier : Option (List Stack.Earlier)
  /-- The weight of its stack at the last fault. -/
  weightAtFault : Nat
  status : Status
  deriving Inhabited

namespace Branch

/-- Whether the branch is at work. -/
def isActive (b : Branch) : Bool :=
  match b.status with
  | .active => true
  | _ => false

/-- Whether the branch waits to be repaired. -/
def isPaused (b : Branch) : Bool :=
  match b.status with
  | .paused _ => true
  | _ => false

/-- Whether the branch has ended. -/
def isHalted (b : Branch) : Bool :=
  match b.status with
  | .halted => true
  | _ => false

end Branch

/-- What a parser works on. -/
structure Task where
  grammar : Grammar
  contextual : Token.Symbols
  source : String

/-- The state of a parse. -/
structure Parsing where
  stack : Stack
  branches : Array Branch
  /-- The best finished tree so far. -/
  finished : Option Fragment
  /-- The number of finished trees that were compared. -/
  finishedCount : Nat
  /-- The token read last, with its position. -/
  recent : Option (Nat × Fragment)
  deriving Inhabited

/-- A step of a parse. -/
abbrev Parser := ReaderT Task (StateM Parsing)

namespace Parser

/-- The most branches that are kept. -/
def maxBranches : Nat := 6

/-- How far over that number branches may go while one token is dealt with. -/
def overflow : Nat := 4

/-- A bound on the length of any loop of a parse; well-behaved grammars stay far below it. -/
def patience : Parser Nat := do
  return 64 * ((← read).source.utf8ByteSize + 64)

/-- The grammar that is parsed by. -/
def grammar : Parser Grammar := return (← read).grammar

/-- The number of branches. -/
def branchCount : Parser Nat := return (← get).branches.size

/-- A branch, by number. -/
def branch (i : Nat) : Parser Branch := return (← get).branches.getD i default

/-- Changes a branch. -/
def modifyBranch (i : Nat) (change : Branch → Branch) : Parser Unit :=
  modify fun p => { p with branches := p.branches.modify i change }

/-- Drops a branch; those behind it move up. -/
def dropBranch (i : Nat) : Parser Unit :=
  modify fun p => { p with branches := p.branches.eraseIdxIfInBounds i }

/-- Adds a branch behind the others, and gives its number. -/
def addBranch (b : Branch) : Parser Nat :=
  modifyGet fun p => (p.branches.size, { p with branches := p.branches.push b })

/-- Ends a branch. -/
def halt (i : Nat) : Parser Unit := modifyBranch i ({ · with status := .halted })

/-- The vertex at the top of a branch's stack. -/
def top (i : Nat) : Parser Vertex := do
  let p ← get
  return p.stack.vertex (p.branches.getD i default).top

/-- The parser state of a branch. -/
def state (i : Nat) : Parser Nat := return (← top i).state

/-- The position of a branch. -/
def position (i : Nat) : Parser Extent := return (← top i).position

/-- Puts a state on top of a branch's stack. -/
def push (i : Nat) (fragment : Option Fragment) (state : Nat) : Parser Unit := do
  let g ← grammar
  modify fun p =>
    let below := (p.branches.getD i default).top
    let stack := p.stack.push g below fragment state
    let top := stack.size - 1
    let weight := (stack.vertex top).weight
    { p with
      stack
      branches := p.branches.modify i fun b =>
        { b with top, weightAtFault := if fragment.isNone then weight else b.weightAtFault } }

/-- The cost of a branch's faults. -/
def cost (i : Nat) : Parser Nat := do
  let v ← top i
  let lost := v.state == 0 && ((v.links[0]?).map (·.fragment.isNone)).getD false
  return v.cost + (if (← branch i).isPaused || lost then Fragment.costOfRecovery else 0)

/-- The number of nodes that a branch has read since its last fault. -/
def progress (i : Nat) : Parser Nat := do
  let weight := (← top i).weight
  modifyBranch i fun b => { b with weightAtFault := min b.weightAtFault weight }
  return weight - (← branch i).weightAtFault

/-- Whether a branch has read any text since its last fault. -/
def advanced (i : Nat) : Parser Bool := do
  let stack := (← get).stack
  let b ← branch i
  if (stack.vertex b.top).cost = 0 then return true
  return stack.advancedSinceFault b.weightAtFault stack.size b.top

/-- Opens a branch for each place that a branch's stack was popped to. Gives the branches with the
fragments popped on each way there. -/
def openBranches (i : Nat) (landings : List Stack.Landing) :
    Parser (List (Nat × List (List Fragment))) := do
  let origin ← branch i
  let mut opened := #[]
  for l in landings do
    let j ← addBranch ⟨l.vertex, none, origin.weightAtFault, .active⟩
    opened := opened.push (j, l.passed)
  return opened.toList

/-- Pops a number of parts of a production off a branch's stack. -/
def pop (i count : Nat) : Parser (List (Nat × List (List Fragment))) := do
  let p ← get
  openBranches i (p.stack.down (p.branches.getD i default).top count)

/-- Puts a branch in the place of another one. -/
def replace (newer older : Nat) : Parser Unit := do
  if newer = older then return
  let old ← branch older
  let new ← branch newer
  modifyBranch older fun _ => { new with earlier := new.earlier <|> old.earlier }
  dropBranch newer

/-- Adds a branch that goes on from where another one is. -/
def copy (i : Nat) : Parser Nat := do
  addBranch { (← branch i) with earlier := none }

/-- Whether two branches agree on everything but what lies below them. -/
def mergeable (i j : Nat) : Parser Bool := do
  return (← branch i).isActive && (← branch j).isActive && Stack.agree (← top i) (← top j)

/-- Merges the second branch into the first if they agree; tells whether they did. -/
def merge (i j : Nat) : Parser Bool := do
  if !(← mergeable i j) then return false
  let g ← grammar
  modify fun p =>
    let kept := (p.branches.getD i default).top
    let gone := (p.branches.getD j default).top
    let limit := p.stack.size
    let links := (p.stack.vertex gone).links
    { p with stack := links.foldl (fun stack link => stack.addLink g limit kept link) p.stack }
  let v ← top i
  if v.state = 0 then modifyBranch i ({ · with weightAtFault := v.weight })
  dropBranch j
  return true

/-- Merges a branch into the first of some others that it agrees with; tells whether one did. -/
def mergeInto (branches : List Nat) (j : Nat) : Parser Bool :=
  match branches with
  | [] => return false
  | i :: rest => do if ← merge i j then return true else mergeInto rest j

/-- How well a branch does. -/
structure Rating where
  cost : Nat
  progress : Nat
  precedence : Int
  /-- Set while the branch cannot go on as it is. -/
  lost : Bool

/-- Which of two branches to go on with. -/
inductive Verdict where
  | takeLeft
  | preferLeft
  | even
  | preferRight
  | takeRight

/-- The margin by which a branch may be worse before it is given up. -/
def margin : Nat := 18 * Fragment.costOfSkippedNode

/-- Compares two branches: cost decides, by far or by a little, and then rank. -/
def Rating.compare (l r : Rating) : Verdict :=
  if !l.lost && r.lost then if l.cost < r.cost then .takeLeft else .preferLeft
  else if l.lost && !r.lost then if r.cost < l.cost then .takeRight else .preferRight
  else if l.cost < r.cost then
    if margin < (r.cost - l.cost) * (1 + l.progress) then .takeLeft else .preferLeft
  else if r.cost < l.cost then
    if margin < (l.cost - r.cost) * (1 + r.progress) then .takeRight else .preferRight
  else if r.precedence < l.precedence then .preferLeft
  else if l.precedence < r.precedence then .preferRight
  else .even

/-- How well a branch does. -/
def rating (i : Nat) : Parser Rating := do
  let paused := (← branch i).isPaused
  let faults ← cost i
  let read ← progress i
  let v ← top i
  return ⟨faults + (if paused then Fragment.costOfSkippedNode else 0), read, v.precedence,
    paused || v.state == 0⟩

/-- Whether a branch would be given up at a given cost: a finished tree or another branch at least
as far on is better. -/
def outdone (i : Nat) (lost : Bool) (cost : Nat) : Parser Bool := do
  if let some f := (← get).finished then
    if f.cost ≤ cost then return true
  let v ← top i
  let own : Rating := ⟨cost, ← progress i, v.precedence, lost⟩
  for j in [0:← branchCount] do
    if j == i || !(← branch j).isActive || (← position j).bytes < v.position.bytes then continue
    match own.compare (← rating j) with
    | .takeRight => return true
    | .preferRight => if ← mergeable j i then return true
    | _ => pure ()
  return false

/-- Puts one reading of a construct together. -/
def assemble (g : Grammar) (symbol : Symbol) (production : Nat) (parts : List Fragment) :
    Fragment × List Fragment :=
  let (own, extras) := Fragment.splitTrailingExtras parts
  (Fragment.construct g symbol own production, extras)

/-- The reading of a construct that is kept of several. All but the first are weighed without what
the production adds. -/
def choose (g : Grammar) (symbol : Symbol) (production : Nat) (ways : List (List Fragment)) :
    Fragment × List Fragment :=
  match ways with
  | [] => assemble g symbol production []
  | first :: others =>
    others.foldl
      (fun kept parts =>
        if kept.1.yieldsTo (assemble g symbol 0 parts).1 then assemble g symbol production parts
        else kept)
      (assemble g symbol production first)

/-- Completes a construct on top of a branch. Gives the first new branch, if any is left. -/
def reduce (i : Nat) (symbol : Symbol) (count : Nat) (precedence : Int) (production : Nat) :
    Parser (Option Nat) := do
  let g ← grammar
  let before ← branchCount
  let popped ← pop i count
  let halted := ((← get).branches.filter (·.isHalted)).size
  let mut gone := 0
  for (opened, ways) in popped do
    let j := opened - gone
    if maxBranches + overflow + halted < j then
      dropBranch j
      gone := gone + 1
    else
      let (parent, extras) := choose g symbol production ways
      let next := g.target (← state j) symbol
      push j (some (parent.addPrecedence precedence)) next
      for extra in extras do
        push j (some extra) next
      if ← mergeInto ((List.range j).filter (· != i)) j then gone := gone + 1
  return if before < (← branchCount) then some before else none

/-- The tree that a walk to the bottom of the stack passed: the last construct on it, with all that
stands around it. -/
def wholeTree (g : Grammar) (passed : List Fragment) : Fragment :=
  let (upTo, extras) := Fragment.splitTrailingExtras passed
  match upTo.getLast? with
  | some root =>
    Fragment.construct g root.symbol (upTo.dropLast ++ root.children ++ extras) root.info.production
  | none => Fragment.construct g g.unexpected passed 0

/-- Finishes a branch whose text is over. -/
def accept (i : Nat) (lookahead : Fragment) : Parser Unit := do
  let g ← grammar
  push i (some lookahead) 1
  let p ← get
  let landings := p.stack.downToBottom (p.branches.getD i default).top
  for l in landings do
    for passed in l.passed do
      let tree := wholeTree g passed
      modify fun p =>
        { p with
          finished := some (Fragment.better p.finished tree)
          finishedCount := p.finishedCount + 1 }
  halt i

end Parser

end LayerAudit.Syntax
