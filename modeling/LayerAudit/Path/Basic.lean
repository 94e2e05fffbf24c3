/-!
# Paths

A path is a text, and what it means is its list of components: slashes in a row count as one, a dot
between slashes counts for nothing, and so does a slash at the end. Only a dot at the very start is
a component. Two texts with the same components are the same path, and paths are ordered by their
components.
-/

namespace LayerAudit

/-- A part of a path. -/
inductive Component where
  /-- The slash that a path from the top starts with. -/
  | root
  /-- A dot at the start of the path. -/
  | current
  /-- Two dots. -/
  | parent
  | name (text : String)
  deriving DecidableEq, Repr, Inhabited

/-- A path, as it is written. -/
structure Path where
  text : String
  deriving DecidableEq, Repr, Inhabited

namespace Component

/-- The rank of a kind of component. -/
def rank : Component → Nat
  | root => 0
  | current => 1
  | parent => 2
  | name _ => 3

/-- Components are ordered by kind, and names by their characters. -/
def compare : Component → Component → Ordering
  | name a, name b => Ord.compare a b
  | a, b => Ord.compare a.rank b.rank

/-- How a component is written. -/
def text : Component → String
  | root => "/"
  | current => "."
  | parent => ".."
  | name text => text

/-- The component that stands between two slashes, if any does. -/
def ofSegment? (segment : List Char) : Option Component :=
  if segment = [] ∨ segment = ['.'] then none
  else if segment = ['.', '.'] then some parent
  else some (name (String.ofList segment))

end Component

namespace Path

/-- The pieces of a text between slashes. -/
def segments : List Char → List (List Char)
  | [] => [[]]
  | c :: rest =>
    if c = '/' then [] :: segments rest
    else
      match segments rest with
      | [] => [[c]]
      | segment :: others => (c :: segment) :: others

/-- The components of a written path. -/
def componentsOf (cs : List Char) : List Component :=
  match cs with
  | '/' :: rest => .root :: (segments rest).filterMap Component.ofSegment?
  | _ =>
    match segments cs with
    | ['.'] :: rest => .current :: rest.filterMap Component.ofSegment?
    | all => all.filterMap Component.ofSegment?

/-- What a path means. -/
def components (p : Path) : List Component := componentsOf p.text.toList

/-- Whether the path starts at the top. -/
def isAbsolute (p : Path) : Bool := p.components.head? = some .root

/-- Whether two texts mean the same path. -/
def same (p q : Path) : Bool := p.components = q.components

/-- Compares lists of components, the first difference deciding. -/
def compareComponents : List Component → List Component → Ordering
  | [], [] => .eq
  | [], _ :: _ => .lt
  | _ :: _, [] => .gt
  | a :: as, b :: bs => (Component.compare a b).then (compareComponents as bs)

/-- Paths are ordered by their components. -/
def compare (p q : Path) : Ordering := compareComponents p.components q.components

/-- The plainest text that means given components. -/
def ofComponents : List Component → Path
  | .root :: rest => ⟨"/" ++ String.intercalate "/" (rest.map Component.text)⟩
  | all => ⟨String.intercalate "/" (all.map Component.text)⟩

/-- A path taken from another one: a path from the top stands for itself. -/
def join (p q : Path) : Path :=
  if q.isAbsolute then q
  else
    match p.text.toList.getLast? with
    | none | some '/' => ⟨p.text ++ q.text⟩
    | some _ => ⟨p.text ++ "/" ++ q.text⟩

/-- The path without its last component; none at the top and for an empty path. -/
def parent? (p : Path) : Option Path :=
  match p.components.getLast? with
  | none | some .root => none
  | some _ => some (ofComponents p.components.dropLast)

/-- The last component, if it is a name. -/
def fileName? (p : Path) : Option String :=
  match p.components.getLast? with
  | some (.name text) => some text
  | _ => none

/-- A file name without what follows its last dot; a dot at the start does not count. -/
def stem (fileName : String) : String :=
  let behind := fileName.toList.reverse.dropWhile (· != '.')
  match behind.drop 1 with
  | [] => fileName
  | before => String.ofList before.reverse

/-- The file name without its last extension; empty if the path ends in no name. -/
def baseName (p : Path) : String := (p.fileName?.map stem).getD ""

/-- What is left of components behind others at their front. -/
def stripComponents : List Component → List Component → Option (List Component)
  | rest, [] => some rest
  | [], _ :: _ => none
  | a :: as, b :: bs => if a = b then stripComponents as bs else none

/-- The components of a path below another one; none if it does not lie there. -/
def below? (p base : Path) : Option (List Component) :=
  stripComponents p.components base.components

/-- Takes one component onto resolved ones, the last of which comes first. Two dots go back by one
component, whatever it is; at the top and at the start there is none, and they stay. -/
def resolveStep (done : List Component) : Component → List Component
  | .current => done
  | .parent =>
    match done with
    | [] => [.parent]
    | [.root] => [.parent, .root]
    | _ :: below => below
  | c => c :: done

/-- Components with dots resolved. -/
def resolve (components : List Component) : List Component :=
  (components.foldl resolveStep []).reverse

/-- The path with dots resolved, as far as its text alone tells. -/
def normalize (p : Path) : Path := ofComponents (resolve p.components)

/-- The text of components as they are shown: names and two dots, with slashes between them, and a
slash in front if they start at the top. -/
def display (components : List Component) : String :=
  let shown := components.filter fun c => c != .root && c != .current
  let joined := String.intercalate "/" (shown.map Component.text)
  if components.head? = some .root then "/" ++ joined else joined

/-- How a path is shown to those who know the base: what lies below the base without it, all else
in full. -/
def relativeTo (p base : Path) : String := display ((p.below? base).getD p.components)

end Path

end LayerAudit
