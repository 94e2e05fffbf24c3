import LayerAudit.Cache
import LayerAudit.Layer

/-!
# Repositories

Contracts of repositories are declared in the domain. Repositories themselves live in a directory
for them in the infrastructure and take what they need through a constructor.
-/

namespace LayerAudit.Rule.RepositoryPattern

/-- Occurs in the name of a repository. -/
def marker : String := "Repository"

/-- The directory for repositories. -/
def directory : String := "repositories"

/-- Whether a name is that of a repository. -/
def isMarked (name : String) : Bool := occursIn marker.toList name.toList

/-- The finding about a repository's contract. -/
def contractFindings (c : Classifier) (file : SourceFile) (i : Interface) : List Finding :=
  if c.layerOfFile file.path = some .domain then []
  else
    [⟨file.path, some i.line, .repositoryLocation,
      "Repository interface '" ++ i.name ++ "' should be declared in the domain layer"⟩]

/-- The finding about where a repository lives. -/
def placeFindings (c : Classifier) (file : SourceFile) (k : Class) : List Finding :=
  if c.inSubdirectory file.path .infrastructure directory then []
  else
    [⟨file.path, some k.line, .repositoryLocation,
      "Repository implementation '" ++ k.name ++ "' should live in infrastructure/" ++ directory⟩]

/-- The finding about a repository's constructor. -/
def constructorFindings (file : SourceFile) (k : Class) : List Finding :=
  if k.hasConstructor then []
  else
    [⟨file.path, some k.line, .repositoryDi,
      "Repository '" ++ k.name ++ "' should receive its dependencies through a constructor"⟩]

/-- The findings about the contracts in a file. -/
def contractsOf (c : Classifier) (file : SourceFile) : List Finding :=
  (file.facts.interfaces.filter fun i => isMarked i.name).flatMap (contractFindings c file)

/-- The findings about the repositories in a file. -/
def repositoriesOf (c : Classifier) (file : SourceFile) : List Finding :=
  (file.facts.classes.filter fun k => isMarked k.name).flatMap fun k =>
    placeFindings c file k ++ constructorFindings file k

/-- The findings about files: all contracts before all repositories. -/
def findings (c : Classifier) (files : List SourceFile) : List Finding :=
  files.flatMap (contractsOf c) ++ files.flatMap (repositoriesOf c)

end LayerAudit.Rule.RepositoryPattern
