import LayerAudit.Facts.Basic
import LayerAudit.FileTree
import LayerAudit.Store

/-!
# Parsed files

A cache holds the facts of every file that was parsed, in the order of their paths, and remembers
the files that could not be. A file is read once: whatever becomes of it later, its facts, or its
failure, stay what they were at the first attempt.
-/

namespace LayerAudit

/-- A file with its facts. -/
structure SourceFile where
  path : Path
  content : String
  facts : Facts
  deriving DecidableEq, Repr, Inhabited

/-- Why a file has no facts. -/
inductive LoadFault where
  | unreadable (fault : PathFault)
  | notText (fault : Text.Utf8Fault)
  | malformed (fault : SyntaxFault)
  deriving DecidableEq, Repr

/-- The wording of a fault. -/
def LoadFault.message : LoadFault → String
  | .unreadable fault => "cannot read file: " ++ fault.message
  | .notText fault => "file is not valid UTF-8: " ++ fault.message
  | .malformed fault => fault.message

/-- Reads the facts of a source text. -/
abbrev Extractor := String → Except SyntaxFault Facts

namespace SourceFile

/-- The file name without its last extension. -/
def baseName (f : SourceFile) : String := f.path.baseName

/-- A file from its bytes. -/
def ofBytes (extract : Extractor) (path : Path) (bytes : List UInt8) :
    Except LoadFault SourceFile := do
  let content ← (Text.decodeUtf8 bytes).mapError LoadFault.notText
  let facts ← (extract content).mapError LoadFault.malformed
  return ⟨path, content, facts⟩

/-- Reads a file from a file system. -/
def load (extract : Extractor) (tree : FileTree) (path : Path) : Except LoadFault SourceFile := do
  ofBytes extract path (← (tree.read path).mapError LoadFault.unreadable)

end SourceFile

/-- The files that were parsed, and the paths of those that could not be. -/
structure Cache where
  /-- In the order of their paths. -/
  files : List SourceFile
  failed : List Path
  deriving DecidableEq, Repr, Inhabited

/-- What an attempt to parse a file came to. -/
inductive Attempt where
  /-- The file was attempted before. -/
  | remembered
  | parsed (file : SourceFile)
  | failed (fault : LoadFault)
  deriving DecidableEq, Repr

namespace Cache

/-- A cache without files. -/
def empty : Cache := ⟨[], []⟩

/-- The facts of a file, if it was parsed. -/
def get? (c : Cache) (path : Path) : Option SourceFile := c.files.find? (·.path.same path)

/-- Whether a file was attempted and could not be parsed. -/
def hasFailed (c : Cache) (path : Path) : Bool := c.failed.any (·.same path)

/-- Puts a file before the first one whose path comes later. -/
def insert (file : SourceFile) : List SourceFile → List SourceFile
  | [] => [file]
  | other :: rest =>
    if (file.path.compare other.path).isLT then file :: other :: rest
    else other :: insert file rest

/-- Parses a file unless it was attempted before. -/
def attempt (load : Path → Except LoadFault SourceFile) (path : Path) (c : Cache) :
    Attempt × Cache :=
  if c.hasFailed path || (c.get? path).isSome then (.remembered, c)
  else
    match load path with
    | .ok file => (.parsed file, { c with files := insert file c.files })
    | .error fault => (.failed fault, { c with failed := c.failed ++ [path] })

end Cache

/-- The finding that a failed attempt is. -/
def Attempt.findings (path : Path) : Attempt → List Finding
  | .failed fault => [⟨path, none, .parseError, "Failed to parse file: " ++ fault.message⟩]
  | _ => []

/-- A cache with the store that its failures are recorded in. -/
structure Session where
  cache : Cache
  store : Store
  deriving DecidableEq, Repr, Inhabited

namespace Session

/-- A session without files and violations. -/
def start (store : Store) : Session := ⟨.empty, store⟩

/-- Parses a file unless it was attempted before, and records a first failure. -/
def parse (load : Path → Except LoadFault SourceFile) (s : Session) (path : Path) : Session :=
  let (attempt, cache) := s.cache.attempt load path
  ⟨cache, s.store.recordAll (attempt.findings path)⟩

/-- Parses files one after the other. -/
def parseAll (load : Path → Except LoadFault SourceFile) (s : Session) (paths : List Path) :
    Session :=
  paths.foldl (parse load) s

end Session

end LayerAudit
