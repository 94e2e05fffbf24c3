import LayerAudit.Number.Binary

/-!
# TOML values

A TOML document as a value. Values keep the stretch of text that wrote them, so that what is wrong
with one can be shown in its place; a table that no text wrote as a whole has none. Tables also keep
how they came to be, which decides whether later lines may add to them.
-/

namespace LayerAudit

/-- A stretch of text, in bytes. -/
structure Span where
  start : Nat
  stop : Nat
  deriving DecidableEq, Repr, Inhabited

namespace Toml

/-- A name in a document. -/
structure Key where
  name : String
  span : Span
  deriving DecidableEq, Repr, Inhabited

/-- How a table came to be. -/
inductive TableKind where
  /-- By a header of its own, or as the document itself. -/
  | stated
  /-- As part of the header of another table. -/
  | implied
  /-- As part of a dotted key. -/
  | dotted
  /-- Between braces. -/
  | inlined
  /-- As part of a dotted key between braces. -/
  | inlinedDotted
  deriving DecidableEq, Repr, Inhabited

/-- How an array came to be. -/
inductive ArrayKind where
  /-- Between brackets. -/
  | written
  /-- By headers of its tables. -/
  | ofTables
  deriving DecidableEq, Repr, Inhabited

end Toml

/-- A TOML value. -/
inductive Toml where
  | string (span : Span) (value : String)
  | integer (span : Span) (value : Int)
  | float (span : Span) (value : Double)
  | boolean (span : Span) (value : Bool)
  /-- A date, a time or both, in their plainest form. -/
  | moment (span : Span) (value : String)
  | array (span : Span) (kind : Toml.ArrayKind) (items : List Toml)
  | table (span : Option Span) (kind : Toml.TableKind) (fields : List (Toml.Key × Toml))
  deriving Repr, Inhabited

namespace Toml

/-- The text that wrote a value. That of an array of tables reaches from its first table to its
last. -/
def span? : Toml → Option Span
  | string span _ | integer span _ | float span _ | boolean span _ | moment span _ => some span
  | array span .written _ => some span
  | array _ .ofTables items =>
    match items.head?, items.getLast? with
    | some (.table (some first) _ _), some (.table (some last) _ _) => some ⟨first.start, last.stop⟩
    | _, _ => none
  | table span _ _ => span

/-- What a value is called. -/
def typeName : Toml → String
  | string .. => "string"
  | integer .. => "integer"
  | float .. => "float"
  | boolean .. => "boolean"
  | moment .. => "datetime"
  | array _ .written _ => "array"
  | array _ .ofTables _ => "array of tables"
  | table _ .inlined _ | table _ .inlinedDotted _ => "inline table"
  | table .. => "table"

/-- The value of a name among fields. -/
def lookup (name : String) : List (Key × Toml) → Option Toml
  | [] => none
  | (key, value) :: rest => if key.name = name then some value else lookup name rest

/-- Puts a value in the place of that of a name. -/
def replaceField (name : String) (new : Toml) : List (Key × Toml) → List (Key × Toml)
  | [] => []
  | (key, value) :: rest =>
    if key.name = name then (key, new) :: rest else (key, value) :: replaceField name new rest

end Toml

end LayerAudit
