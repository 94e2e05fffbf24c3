import LayerAudit.Toml.Scalar

/-!
# TOML documents

Reading a whole document. Headers and dotted keys name places in a tree of tables, and each table is
stated once: a header may state a table that another header implied before, and dotted keys may add
to tables that dotted keys made.
-/

namespace LayerAudit.Toml

open Reader

/-- The greatest depth of values within values, and the greatest length of a dotted key. -/
def maxDepth : Nat := 80

/-- Whether a character may stand in a bare key. -/
def isBareKeyChar (c : Char) : Bool := c.isAlphanum || c = '_' || c = '-'

/-- A name in quotes or a bare one. -/
def keyName : Reader String := do
  if ← skip "\"" then basicRest [] ((← remaining).length + 1)
  else if ← skip "'" then literalRest
  else
    let cs ← takeWhile isBareKeyChar
    if cs.isEmpty then fail else return String.ofList cs

/-- One name of a key. -/
def simpleKey : Reader Key := do
  let start ← offset
  let name ← keyName
  return ⟨name, ⟨start, ← offset⟩⟩

/-- The names of a key behind the first one, in a number of steps at most. -/
def dottedRest (done : List Key) : Nat → Reader (List Key)
  | 0 => fail
  | limit + 1 => do
    blanks
    let key ← simpleKey
    blanks
    let done := key :: done
    if ← skip "." then dottedRest done limit
    else if done.length < maxDepth then return done.reverse
    else fail

/-- A key: one name, or several with dots between them. -/
def dottedKey : Reader (List Key) := do dottedRest [] ((← remaining).length + 1)

/-- How a table that a dotted key makes on its way comes to be, within a table of a given kind. -/
structure Placement where
  /-- The kind of the tables made on the way. -/
  made : TableKind
  /-- Whether tables of a kind may be added to on the way. -/
  open? : TableKind → Bool

/-- The way of a header. -/
def Placement.header : Placement where
  made := .implied
  open? kind := kind = .stated || kind = .implied || kind = .dotted

/-- The way of a dotted key on a line of its own. -/
def Placement.dottedLine : Placement where
  made := .dotted
  open? kind := kind = .implied || kind = .dotted

/-- The way of a dotted key between braces. -/
def Placement.dottedInline : Placement where
  made := .inlinedDotted
  open? kind := kind = .inlinedDotted

/-- Changes a list's last item. -/
def modifyLast (change : Toml → Option Toml) : List Toml → Option (List Toml)
  | [] => none
  | [item] => (change item).map fun item => [item]
  | item :: rest => (modifyLast change rest).map (item :: ·)

/-- Changes the table at a path below a table, making the tables on the way that are not there. In
an array of tables the way leads through the last one. -/
def modifyAt (way : Placement) (change : Toml → Option Toml) : List Key → Toml → Option Toml
  | [], t => change t
  | key :: path, .table span kind fields =>
    match lookup key.name fields with
    | none => do
      let made ← modifyAt way change path (.table none way.made [])
      return .table span kind (fields ++ [(key, made)])
    | some (.array s .ofTables items) => do
      let items ← modifyLast (modifyAt way change path) items
      return .table span kind (replaceField key.name (.array s .ofTables items) fields)
    | some (.table s k below) =>
      if way.open? k then do
        let changed ← modifyAt way change path (.table s k below)
        return .table span kind (replaceField key.name changed fields)
      else none
    | some _ => none
  | _ :: _, _ => none

/-- The last of some keys, with those before it. -/
def splitKey (path : List Key) : Option (List Key × Key) :=
  path.getLast?.map fun key => (path.dropLast, key)

/-- Adds a field that is not there yet. A table made by a dotted key is added to by dotted keys
alone, and these add to no other table. -/
def addField (throughDots : Bool) (key : Key) (value : Toml) : Toml → Option Toml
  | .table span kind fields =>
    let isDotted := kind = .dotted || kind = .inlinedDotted
    if isDotted = throughDots && (lookup key.name fields).isNone then
      some (.table span kind (fields ++ [(key, value)]))
    else none
  | _ => none

/-- Adds a field at a dotted key. -/
def addAt (way : Placement) (path : List Key) (value : Toml) (t : Toml) : Option Toml := do
  let (before, key) ← splitKey path
  modifyAt way (addField (!before.isEmpty) key value) before t

/-- The fields of a table between braces. -/
def inlineTable (span : Span) (pairs : List (List Key × Toml)) : Option Toml :=
  pairs.foldlM (fun t pair => addAt .dottedInline pair.1 pair.2 t) (.table (some span) .inlined [])

/-- Ends a table at the end of a value that is added to it. -/
def extendTo (value : Toml) : Toml → Toml
  | .table (some span) kind fields =>
    match value.span? with
    | some v => .table (some ⟨span.start, v.stop⟩) kind fields
    | none => .table (some span) kind fields
  | t => t

/-- Adds a line to a table. -/
def addLine (path : List Key) (value : Toml) (t : Toml) : Option Toml :=
  addAt .dottedLine path value (extendTo value t)

/-- States a table within another one. A table that was implied before is taken up, and moves to the
end. -/
def stateTable (span : Span) (key : Key) : Toml → Option Toml
  | .table s kind fields =>
    let stated (below : List (Key × Toml)) : Toml := .table (some span) .stated below
    match lookup key.name fields with
    | none => some (.table s kind (fields ++ [(key, stated [])]))
    | some (.table _ .implied below) =>
      let others := fields.filter fun f => f.1.name != key.name
      some (.table s kind (others ++ [(key, stated below)]))
    | some _ => none
  | _ => none

/-- States a further table of an array of tables. -/
def stateItem (span : Span) (key : Key) : Toml → Option Toml
  | .table s kind fields =>
    let item : Toml := .table (some span) .stated []
    match lookup key.name fields with
    | none => some (.table s kind (fields ++ [(key, .array span .ofTables [item])]))
    | some (.array a .ofTables items) =>
      some (.table s kind (replaceField key.name (.array a .ofTables (items ++ [item])) fields))
    | some _ => none
  | _ => none

mutual

/-- A value. The numbers bound the steps and count the depth. -/
def readValue : Nat → Nat → Reader Toml
  | 0, _ => fail
  | limit + 1, depth => do
    let start ← offset
    let since : Reader Span := do return ⟨start, ← offset⟩
    match ← peek with
    | some '"' | some '\'' =>
      let s ← stringValue
      return .string (← since) s
    | some '[' =>
      advance
      if depth + 1 < maxDepth then
        let items ← readItems [] limit (depth + 1)
        return .array (← since) .written items
      else fail
    | some '\x7b' =>
      advance
      if depth + 1 < maxDepth then
        let pairs ← readPairs limit (depth + 1)
        let span ← since
        fun i => (inlineTable span pairs).map fun t => (t, i)
      else fail
    | some 't' =>
      expect "true"
      return .boolean (← since) true
    | some 'f' =>
      expect "false"
      return .boolean (← since) false
    | some c =>
      if c = 'i' || c = 'n' then
        let d ← specialFloat
        return .float (← since) d
      else
        match ← maybe momentValue with
        | some m => return .moment (← since) m
        | none =>
          match ← maybe floatValue with
          | some d => return .float (← since) d
          | none =>
            let n ← integerValue
            return .integer (← since) n
    | none => fail

/-- The items of an array, and its closing bracket. -/
def readItems (done : List Toml) : Nat → Nat → Reader (List Toml)
  | 0, _ => fail
  | limit + 1, depth => do
    gap (limit + 1)
    if ← skip "]" then return done.reverse
    let item ← readValue limit depth
    gap (limit + 1)
    if ← skip "," then readItems (item :: done) limit depth
    else
      expect "]"
      return (item :: done).reverse

/-- The pairs of a table between braces, and its closing brace. -/
def readPairs : Nat → Nat → Reader (List (List Key × Toml))
  | 0, _ => fail
  | limit + 1, depth => do
    blanks
    if ← skip "\x7d" then return [] else readPairsFrom [] limit depth

/-- One or more pairs, and the closing brace. -/
def readPairsFrom (done : List (List Key × Toml)) : Nat → Nat → Reader (List (List Key × Toml))
  | 0, _ => fail
  | limit + 1, depth => do
    let path ← dottedKey
    expect "="
    blanks
    let value ← readValue limit depth
    blanks
    let done := (path, value) :: done
    if ← skip "," then readPairsFrom done limit depth
    else
      expect "\x7d"
      return done.reverse

end

/-- A document under way, and the table that lines are added to. -/
structure Draft where
  document : Toml
  current : List Key

/-- A change to a document, or the end of reading if it breaks the rules. -/
def Draft.change (d : Draft) (changed : Option Toml) : Reader Draft :=
  match changed with
  | some document => return { d with document }
  | none => fail

/-- A header of a table, or of a table of an array. -/
def readHeader (d : Draft) : Reader Draft := do
  let start ← offset
  let ofArray ← skip "[["
  if !ofArray then expect "["
  let path ← dottedKey
  expect (if ofArray then "]]" else "]")
  let span : Span := ⟨start, ← offset⟩
  lineEnd
  match splitKey path with
  | none => fail
  | some (before, key) =>
    let state := if ofArray then stateItem span key else stateTable span key
    Draft.change ⟨d.document, path⟩ (modifyAt .header state before d.document)

/-- A line that adds a value. -/
def readLine (d : Draft) : Reader Draft := do
  let path ← dottedKey
  expect "="
  blanks
  let value ← readValue ((← remaining).length + 1) 0
  lineEnd
  d.change (modifyAt .header (addLine path value) d.current d.document)

/-- The lines of a document, in a number of steps at most. -/
def readLines (d : Draft) : Nat → Reader Draft
  | 0 => return d
  | limit + 1 => do
    blanks
    match ← peek with
    | none => return d
    | some '#' | some '\n' | some '\r' =>
      lineEnd
      readLines d limit
    | some '[' =>
      let d ← readHeader d
      readLines d limit
    | some _ =>
      let d ← readLine d
      readLines d limit

/-- The document that a text writes; none if the text breaks the rules. -/
def parse (text : String) : Option Toml := do
  let all := text.toList
  let start : Input :=
    if all.head? = some '\ufeff' then ⟨all.drop 1, 3⟩ else ⟨all, 0⟩
  let (d, _) ← readLines ⟨.table none .stated [], []⟩ (all.length + 1) start
  return d.document

end LayerAudit.Toml
