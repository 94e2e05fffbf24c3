import LayerAudit.Text.Blank

/-!
# Facts about a source file

What the checks know of a source file: its imports, its exported names, its classes and its
interfaces, each with the line on which the declaration starts, counted from one. A file whose text
is not well formed gives no facts but a fault.
-/

namespace LayerAudit

/-- An import of a module. -/
structure Import where
  line : Nat
  /-- The module as the import names it. -/
  specifier : String
  deriving DecidableEq, Repr, Inhabited

/-- A name that a file exports. -/
structure Export where
  line : Nat
  name : String
  deriving DecidableEq, Repr, Inhabited

/-- A type that a class builds on, as written in its heading. -/
structure TypeRef where
  text : String
  deriving DecidableEq, Repr, Inhabited

/-- A class declaration. -/
structure Class where
  name : String
  line : Nat
  hasConstructor : Bool
  /-- The types that the class extends. -/
  bases : List TypeRef
  /-- The types that the class implements. -/
  contracts : List TypeRef
  deriving DecidableEq, Repr, Inhabited

/-- An interface declaration. -/
structure Interface where
  line : Nat
  name : String
  deriving DecidableEq, Repr, Inhabited

/-- The facts about one file, each list in source order. -/
structure Facts where
  imports : List Import
  exports : List Export
  classes : List Class
  interfaces : List Interface
  deriving DecidableEq, Repr, Inhabited

namespace TypeRef

/-- The characters behind the last full stop, or all if there is none. -/
def lastSegment (cs : List Char) : List Char :=
  (cs.reverse.takeWhile (· != '.')).reverse

/-- The name that is referred to: without type arguments and without qualifying names. -/
def simpleName (t : TypeRef) : String :=
  let base := Text.trimWhere Text.isBlank (t.text.toList.takeWhile (· != '<'))
  String.ofList (Text.trimWhere Text.isBlank (lastSegment base))

end TypeRef

namespace Class

/-- Whether the class extends a type of a given name. -/
def extendsNamed (c : Class) (name : String) : Bool := c.bases.any (·.simpleName = name)

end Class

/-- Why a file gives no facts. -/
structure SyntaxFault where
  line : Nat
  /-- The token that the file lacks at this place; without one, some text fits nowhere. -/
  missing : Option String
  deriving DecidableEq, Repr, Inhabited

/-- The wording of a fault. -/
def SyntaxFault.message (f : SyntaxFault) : String :=
  let what :=
    match f.missing with
    | some kind => "missing `" ++ kind ++ "`"
    | none => "unexpected syntax"
  "syntax error at line " ++ toString f.line ++ ": " ++ what

end LayerAudit
