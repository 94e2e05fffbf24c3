import LayerAudit.Syntax.Parse
import LayerAudit.Syntax.TypeScript

/-!
# From fragments to trees

A finished fragment becomes a syntax tree by leaving out what does not show: the children of a
hidden construct show in its place. Each node is told which roles it fills for its parent, also
where hidden constructs lie between the two.
-/

namespace LayerAudit.Syntax

namespace Fragment

/-- Whether a child shows, under its own name or another one. -/
def shows (f : Fragment) (shownAs : Option Symbol) : Bool := f.info.visible || shownAs.isSome

/-- The number of nodes that a child adds to the nodes of its parent. -/
def span (f : Fragment) (shownAs : Option Symbol) : Nat :=
  if f.shows shownAs then 1 else if f.children.isEmpty then 0 else f.info.visibleChildren

mutual

/-- Which of the nodes below a fragment plays a role for it, counted from the left. -/
def roleIndex (g : Grammar) (role : Role) : Fragment → Option Nat
  | mk info children =>
    let rules := (g.production info.production).roles.filter (·.role = role)
    roleIndexAmong g role info.production rules 0 0 children

/-- Looks for the player of a role among children, from the given place in the production and with
the given number of nodes already passed. -/
def roleIndexAmong (g : Grammar) (role : Role) (production : Nat) (rules : List RoleRule)
    (place passed : Nat) : List Fragment → Option Nat
  | [] => none
  | f :: rest =>
    if f.extra then
      roleIndexAmong g role production rules place (passed + f.span none) rest
    else
      let shownAs := g.aliasAt production place
      let next (rules : List RoleRule) : Option Nat :=
        roleIndexAmong g role production rules (place + 1) (passed + f.span shownAs) rest
      match rules.dropWhile (·.child < place) with
      | [] => none
      | rule :: later =>
        if rule.child ≠ place then next (rule :: later)
        else if rule.inherited then
          let inside := (roleIndex g role f).map (passed + ·)
          if later.isEmpty then inside
          else inside <|> next later
        else if f.shows shownAs || (!f.children.isEmpty && 0 < f.info.visibleChildren) then
          some passed
        else if later.isEmpty then none
        else next later

end

/-- The roles that readers ask for. -/
def allRoles : List Role := [.name, .source, .declaration, .body, .newName]

/-- The players of all roles for a fragment. -/
def rolesOf (g : Grammar) (f : Fragment) : List (Role × Nat) :=
  allRoles.filterMap fun role => (f.roleIndex g role).map fun i => (role, i)

mutual

/-- Whether an invented token, or skipped text, hides in a fragment's hidden constructs. -/
def conceals (g : Grammar) : Fragment → Bool
  | mk info children => concealsAmong g info.production 0 children

/-- Whether an invented token, or skipped text, hides among children. -/
def concealsAmong (g : Grammar) (production place : Nat) : List Fragment → Bool
  | [] => false
  | f :: rest =>
    let shownAs := if f.extra then none else g.aliasAt production place
    (!f.shows shownAs && (f.info.missing || f.symbol = g.skipped || conceals g f)) ||
      concealsAmong g production (if f.extra then place else place + 1) rest

end

mutual

/-- The node of a fragment that shows, put before other nodes. -/
def toNode (g : Grammar) (shownAs : Option Symbol) (roles : List Role) (origin : Extent) :
    Fragment → Node
  | mk info children =>
    let shown := g.info (shownAs.getD info.symbol)
    let start := origin + info.padding
    let f := mk info children
    let label : Label :=
      { kind := shown.name, named := shown.named
        standing :=
          if shownAs.getD info.symbol = g.unexpected then .unexpected
          else if info.missing then .missing
          else .sound
        concealsMissing := f.conceals g
        roles
        row := start.rows, start := start.bytes, stop := (start + info.size).bytes }
    .mk label (toNodes g info.production (f.rolesOf g) 0 0 origin children [])

/-- The nodes of children, put before other nodes. The roles are those of the next nodes, by number,
of which some are already passed. -/
def toNodes (g : Grammar) (production : Nat) (roles : List (Role × Nat)) (place passed : Nat)
    (origin : Extent) : List Fragment → List Node → List Node
  | [], others => others
  | f :: rest, others =>
    let shownAs := if f.extra then none else g.aliasAt production place
    let others :=
      toNodes g production roles (if f.extra then place else place + 1) (passed + f.span shownAs)
        (origin + f.total) rest others
    if f.shows shownAs then
      let own := (roles.filter (·.2 = passed)).map (·.1)
      toNode g shownAs own origin f :: others
    else hiddenNodes g roles passed origin f others

/-- The nodes of a construct that does not show, put before other nodes. -/
def hiddenNodes (g : Grammar) (roles : List (Role × Nat)) (passed : Nat) (origin : Extent) :
    Fragment → List Node → List Node
  | mk info children, others => toNodes g info.production roles 0 passed origin children others

end

end Fragment

/-- The tree of a text in a given grammar. -/
def Grammar.tree (g : Grammar) (contextual : Token.Symbols) (source : String) : Node :=
  (Parser.parse ⟨g, contextual, source⟩).toNode g none [] .zero

namespace TypeScript

/-- The symbols of the contextual tokens. -/
def contextualSymbols : Token.Symbols where
  semicolon := 158
  templateText := 159
  ternaryMark := 160
  htmlComment := 161

/-- The syntax tree of a source file. -/
def tree (source : String) : Node := grammar.tree contextualSymbols source

end TypeScript

end LayerAudit.Syntax
