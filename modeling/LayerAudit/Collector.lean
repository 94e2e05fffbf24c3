import LayerAudit.FileTree
import LayerAudit.Named

/-!
# Collecting source files

The source files below a directory: the regular files whose names have one of the extensions asked
for, apart from declaration files and from all that lies in directories with a skipped name. Links
are not followed, except where the walk starts.
-/

namespace LayerAudit

/-- Which files to collect. -/
structure Collector where
  /-- The ends of file names that are asked for. -/
  extensions : List String
  /-- The names of directories that are not entered. -/
  skipped : List String
  deriving DecidableEq, Repr, Inhabited

namespace Collector

/-- The names of directories that are never entered. -/
def alwaysSkipped : List String :=
  ["node_modules", "dist", "build", "out", "coverage", ".git", ".next", ".turbo", ".nyc_output"]

/-- The end of the name of a declaration file. -/
def declarationSuffix : String := ".d.ts"

/-- A collector for given extensions. -/
def ofExtensions (extensions : List String) : Collector := ⟨extensions, alwaysSkipped⟩

/-- The collector that also skips other directories. -/
def skipping (c : Collector) (names : List String) : Collector :=
  { c with skipped := c.skipped ++ names }

/-- Whether directories of a name are skipped. -/
def skips (c : Collector) (name : String) : Bool := c.skipped.contains name

/-- Whether a text ends with another one. -/
def endsWith (suffix s : String) : Bool := suffix.toList.isSuffixOf s.toList

/-- Whether a file of a given name is asked for. -/
def accepts (c : Collector) (name : String) : Bool :=
  !endsWith declarationSuffix name && c.extensions.any fun e => endsWith e name

/-- Whether a path ends in the name of a file that is asked for. -/
def isSource (c : Collector) (p : Path) : Bool := p.fileName?.any c.accepts

/-- What lies below directory entries, with the entries ordered by name. -/
def inOrder {α : Type} (below : List (String × List α)) : List α :=
  (byName below).flatMap Prod.snd

mutual

/-- The regular files at an entry and below it: what lies in a directory comes before its next
sibling. -/
def filesAt (c : Collector) (path : Path) : Entry → List Path
  | .file _ => [path]
  | .directory entries => inOrder (filesBelow c path entries)
  | .link _ => []

/-- The regular files at the entries of a directory, entry by entry. -/
def filesBelow (c : Collector) (path : Path) : List (String × Entry) → List (String × List Path)
  | [] => []
  | (name, entry) :: rest =>
    let files :=
      if entry.isDirectory && c.skips name then [] else filesAt c (path.join ⟨name⟩) entry
    (name, files) :: filesBelow c path rest

end

/-- The regular files met on a walk from a root. A link is followed at the root if it leads to a
directory. -/
def walk (c : Collector) (tree : FileTree) (root : Path) : List Path :=
  match tree.find root with
  | .ok (.directory entries) => c.filesAt root (.directory entries)
  | .ok entry => if tree.isLink root then [] else c.filesAt root entry
  | .error _ => []

/-- The source files below a root, in the order of their paths. -/
def collect (c : Collector) (tree : FileTree) (root : Path) : List Path :=
  ((c.walk tree root).filter c.isSource).mergeSort fun p q => (p.compare q).isLE

/-- The regular files that a walk from a root passes by. -/
def passedBy (c : Collector) (tree : FileTree) (root : Path) : List Path :=
  (c.walk tree root).filter fun p => !c.isSource p

end Collector

end LayerAudit
