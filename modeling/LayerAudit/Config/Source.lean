import LayerAudit.Config.Read

/-!
# Where a configuration comes from

A file that is named outright is used as it is. Otherwise the project's directory is searched, then
the directory for all projects, and where neither holds a configuration the defaults apply.
-/

namespace LayerAudit

/-- Where a configuration comes from. -/
inductive ConfigSource where
  /-- A file that was named outright. -/
  | explicit (path : Path)
  /-- A file in the project's directory. -/
  | project (path : Path)
  /-- A file in the directory for all projects. -/
  | global (path : Path)
  /-- No file. -/
  | builtIn
  deriving DecidableEq, Repr, Inhabited

namespace ConfigSource

/-- The names that a project's configuration may have, in the order in which they are tried. -/
def projectNames : List String := ["layerguard.toml", ".layerguard.toml"]

/-- The name of the configuration for all projects. -/
def globalName : String := "config.toml"

/-- The file to read, if any. -/
def path? : ConfigSource → Option Path
  | explicit path | project path | global path => some path
  | builtIn => none

/-- A phrase that names the source. -/
def display : ConfigSource → String
  | explicit path => "config " ++ path.text
  | project path => "project config " ++ path.text
  | global path => "global config " ++ path.text
  | builtIn => "built-in defaults"

/-- The directory for all projects: the one that is set for it, or else one below the user's
own. -/
def globalDirectory (set home : Option Path) : Option Path :=
  set <|> home.map fun directory => directory.join ⟨".layerguard"⟩

/-- The files that may hold a project's configuration, in the order in which they are tried. -/
def projectFiles (projectDirectory : Path) : List Path :=
  projectNames.map fun name => projectDirectory.join ⟨name⟩

/-- The file that may hold the configuration for all projects. -/
def globalFile? (global : Option Path) : Option Path :=
  global.map fun path => path.join ⟨globalName⟩

/-- Finds the source for a project. Relative paths start at a given directory. -/
def find (tree : FileTree) (directory projectDirectory : Path) (named global : Option Path) :
    ConfigSource :=
  let isFile (path : Path) : Bool := tree.isFile (directory.join path)
  match named with
  | some path => explicit path
  | none =>
    match (projectFiles projectDirectory).find? isFile with
    | some path => project path
    | none =>
      match (globalFile? global).filter isFile with
      | some path => .global path
      | none => builtIn

/-- All files that are looked at to find the source for a project. -/
def candidates (projectDirectory : Path) (named global : Option Path) : List Path :=
  named.toList ++ projectFiles projectDirectory ++ (globalFile? global).toList

/-- The configuration of a source. -/
def load (tree : FileTree) (directory : Path) (s : ConfigSource) : Except ConfigFault Config :=
  match s.path? with
  | some path => Config.ofFile tree directory path
  | none => .ok .default

end ConfigSource

end LayerAudit
