import LayerAudit.Syntax.Fragment

/-!
# The stack of a parser that follows several readings

A parser that follows several readings of a text keeps one stack for each, and readings share what
their stacks have in common. The stacks form a graph: a vertex is a parser state reached at a
position, and its links lead to the vertices below it, each over the fragment that lies between.
Links never lead in a circle, so a walk down the graph ends after at most as many steps as there are
vertices.
-/

namespace LayerAudit.Syntax

/-- A step down the stack, over a fragment or over the mark of a lost parser. -/
structure Link where
  vertex : Nat
  fragment : Option Fragment
  deriving Inhabited

/-- A parser state reached at a position, over every stack below it. -/
structure Vertex where
  state : Nat
  position : Extent
  /-- The ways down; the first is the main one. -/
  links : Array Link
  /-- The cost of the faults below. -/
  cost : Nat
  /-- The number of tree nodes below. -/
  weight : Nat
  precedence : Int
  deriving Inhabited

/-- The vertices of all stacks, oldest first. -/
abbrev Stack := Array Vertex

/-- A walk down from the top of a stack: where it is, what it passed, in source order, and how many
parts of a production that makes. -/
structure Descent where
  vertex : Nat
  passed : List Fragment
  count : Nat

/-- What to do at a vertex on the way down. -/
structure Move where
  /-- Report the walk so far. -/
  report : Bool
  /-- Go no further. -/
  stop : Bool

namespace Stack

/-- The most links that a vertex has. -/
def maxLinks : Nat := 8

/-- The most walks that are followed at once. -/
def maxDescents : Nat := 64

/-- The vertex with a given number. -/
def vertex (stack : Stack) (i : Nat) : Vertex := stack.getD i default

/-- A vertex without anything below it. -/
def bottom (state : Nat) : Vertex := ⟨state, .zero, #[], 0, 0, 0⟩

/-- Puts a state on top of a vertex, over a fragment or over the mark of a lost parser. -/
def push (g : Grammar) (stack : Stack) (below : Nat) (fragment : Option Fragment) (state : Nat) :
    Stack :=
  let under := stack.vertex below
  Array.push stack <|
    match fragment with
    | none => { under with state, links := #[⟨below, none⟩] }
    | some f =>
      { state
        position := under.position + f.total
        links := #[⟨below, some f⟩]
        cost := under.cost + f.cost
        weight := under.weight + f.weight g
        precedence := under.precedence + f.info.precedence }

/-- The rank of the reading that a link stands for. -/
def linkPrecedence (stack : Stack) (link : Link) : Int :=
  (stack.vertex link.vertex).precedence + (link.fragment.map (·.info.precedence)).getD 0

/-- Whether two vertices differ at most in what lies below them. -/
def agree (a b : Vertex) : Bool :=
  a.state = b.state && a.position.bytes = b.position.bytes && a.cost = b.cost

/-- What a new link of a vertex does to an old one. -/
inductive Meeting where
  | apart
  /-- Both lead over like fragments to one vertex; the higher ranked is kept. -/
  | same
  /-- Both lead over like fragments to vertices that agree, which are to share their links. -/
  | joined (vertex : Nat)

/-- How a new link meets an old one. -/
def meeting (stack : Stack) (old new : Link) : Meeting :=
  if Fragment.interchangeable old.fragment new.fragment then
    if old.vertex = new.vertex then .same
    else if agree (stack.vertex old.vertex) (stack.vertex new.vertex) then .joined old.vertex
    else .apart
  else .apart

/-- The first old link that a new one meets, with its place. -/
def firstMeeting (stack : Stack) (new : Link) (place : Nat) : List Link → Option (Nat × Meeting)
  | [] => none
  | old :: rest =>
    match meeting stack old new with
    | .apart => firstMeeting stack new (place + 1) rest
    | found => some (place, found)

/-- Adds a link to a vertex, or merges it with one that leads the same way. The number bounds how
far down vertices are merged. -/
def addLink (g : Grammar) : Nat → Stack → Nat → Link → Stack
  | 0, stack, _, _ => stack
  | limit + 1, stack, i, new =>
    if new.vertex = i then stack
    else
      let v := stack.vertex i
      let rank := stack.linkPrecedence new
      match stack.firstMeeting new 0 v.links.toList with
      | some (_, .joined old) =>
        let joined := (stack.vertex new.vertex).links.foldl
          (fun stack link => addLink g limit stack old link) stack
        let v := joined.vertex i
        joined.setIfInBounds i { v with precedence := max v.precedence rank }
      | some (place, _) =>
        let old := v.links.getD place default
        let ownRank (link : Link) : Int := (link.fragment.map (·.info.precedence)).getD 0
        if ownRank old < ownRank new then
          stack.setIfInBounds i
            { v with links := v.links.setIfInBounds place new, precedence := rank }
        else stack
      | none =>
        if maxLinks ≤ v.links.size then stack
        else
          let weight := (stack.vertex new.vertex).weight +
            (new.fragment.map (·.weight g)).getD 0
          stack.setIfInBounds i
            { v with
              links := v.links.push new
              weight := max v.weight weight
              precedence := max v.precedence rank }

/-- Follows a link. -/
def follow (d : Descent) (link : Link) : Descent :=
  match link.fragment with
  | none => ⟨link.vertex, d.passed, d.count + 1⟩
  | some f => ⟨link.vertex, f :: d.passed, if f.extra then d.count else d.count + 1⟩

/-- The walks under way, and those reported. -/
structure Round (σ : Type) where
  state : σ
  /-- Walks that went on over a main link. -/
  onward : Array Descent
  /-- Walks that branched off. -/
  branched : Array Descent
  reported : Array Descent
  /-- The number of walks yet to be moved in this round. -/
  waiting : Nat

/-- Moves one walk a step down. -/
def step {σ : Type} (stack : Stack) (visit : σ → Descent → σ × Move) (r : Round σ) (d : Descent) :
    Round σ :=
  let (state, move) := visit r.state d
  let reported := if move.report then r.reported.push d else r.reported
  let links := (stack.vertex d.vertex).links
  match links[0]? with
  | some main =>
    if move.stop then { r with state, reported, waiting := r.waiting - 1 }
    else
      let room := maxDescents - (r.onward.size + r.waiting + r.branched.size)
      { state, reported
        onward := r.onward.push (follow d main)
        branched := r.branched ++ ((links.extract 1 links.size).extract 0 room).map (follow d)
        waiting := r.waiting - 1 }
  | none => { r with state, reported, waiting := r.waiting - 1 }

/-- Walks down from some vertices, and gives the reported walks in order. -/
def walkFrom {σ : Type} (stack : Stack) (visit : σ → Descent → σ × Move) :
    Nat → σ → Array Descent → Array Descent → σ × Array Descent
  | 0, state, _, reported => (state, reported)
  | limit + 1, state, walks, reported =>
    if walks.isEmpty then (state, reported)
    else
      let r := walks.foldl (step stack visit) ⟨state, #[], #[], reported, walks.size⟩
      walkFrom stack visit limit r.state (r.onward ++ r.branched) r.reported

/-- Walks down from a vertex, and gives the reported walks in order. -/
def walk {σ : Type} (stack : Stack) (visit : σ → Descent → σ × Move) (start : σ) (top : Nat) :
    σ × List Descent :=
  let (state, reported) := stack.walkFrom visit (stack.size + 1) start #[⟨top, [], 0⟩] #[]
  (state, reported.toList)

/-- The fragments of one or more walks that end at a common vertex. -/
structure Landing where
  vertex : Nat
  passed : List (List Fragment)
  deriving Inhabited

/-- Adds a walk to those that end where it does. -/
def land (d : Descent) : List Landing → List Landing
  | [] => [⟨d.vertex, [d.passed]⟩]
  | l :: rest =>
    if l.vertex = d.vertex then ⟨l.vertex, l.passed ++ [d.passed]⟩ :: rest
    else l :: land d rest

/-- Groups walks by where they end, in the order in which the ends were first reached. -/
def landings (walks : List Descent) : List Landing := walks.foldl (fun ls d => land d ls) []

/-- The walks over a given number of parts of a production. -/
def down (stack : Stack) (top count : Nat) : List Landing :=
  landings (stack.walk (fun _ d => ((), ⟨d.count = count, d.count = count⟩)) () top).2

/-- The walks to the bottom of the stack. -/
def downToBottom (stack : Stack) (top : Nat) : List Landing :=
  let visit (_ : Unit) (d : Descent) : Unit × Move :=
    ((), ⟨(stack.vertex d.vertex).links.isEmpty, false⟩)
  landings (stack.walk visit () top).2

/-- A state that the parser was in before, and how far down the stack it lies. -/
structure Earlier where
  position : Extent
  depth : Nat
  state : Nat
  deriving Inhabited

/-- The states that lie below a vertex, nearest first, down to a given depth. -/
def earlier (stack : Stack) (top maxDepth : Nat) : List Earlier :=
  let visit (found : Array Earlier) (d : Descent) : Array Earlier × Move :=
    let v := stack.vertex d.vertex
    if maxDepth < d.count then (found, ⟨false, true⟩)
    else if found.any fun e => e.depth = d.count && e.state = v.state then (found, ⟨false, false⟩)
    else (found.push ⟨v.position, d.count, v.state⟩, ⟨false, false⟩)
  (stack.walk visit #[] top).1.toList

/-- Whether some text was read since the last fault below a vertex. -/
def advancedSinceFault (stack : Stack) (weightAtFault : Nat) : Nat → Nat → Bool
  | 0, _ => false
  | limit + 1, i =>
    let v := stack.vertex i
    match v.links[0]? with
    | none => false
    | some link =>
      match link.fragment with
      | none => false
      | some f =>
        if 0 < f.total.bytes then true
        else if weightAtFault < v.weight && f.cost = 0 then
          advancedSinceFault stack weightAtFault limit link.vertex
        else false

end Stack

end LayerAudit.Syntax
