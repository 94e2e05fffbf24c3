import LayerAudit.Rule.ErrorInheritance
import LayerAudit.Rule.InterfaceConvention
import LayerAudit.Rule.LayerDependency
import LayerAudit.Rule.RepositoryPattern
import LayerAudit.Rule.ServicePattern
import LayerAudit.Rule.TypeQuality

/-!
# The rules

The rules that a project is checked by, in the order in which they run. A rule looks at the parsed
files and states findings; it knows nothing of other rules and of what was recorded before.
-/

namespace LayerAudit

/-- A rule. -/
inductive Rule where
  | layerDependency
  | interfaceConvention
  | repositoryPattern
  | servicePattern
  | errorInheritance
  | typeQuality
  deriving DecidableEq, Repr, Inhabited

namespace Rule

/-- The rules, in the order in which they run. -/
def all : List Rule :=
  [layerDependency, interfaceConvention, repositoryPattern, servicePattern, errorInheritance,
    typeQuality]

/-- The name by which a rule is configured. -/
def name : Rule → String
  | layerDependency => "layer-dependency"
  | interfaceConvention => "interface-convention"
  | repositoryPattern => "repository-pattern"
  | servicePattern => "service-pattern"
  | errorInheritance => "error-inheritance"
  | typeQuality => "type-quality"

/-- What a rule asks for. -/
def description : Rule → String
  | layerDependency => "Dependencies must point inward: infrastructure -> application -> domain"
  | interfaceConvention => "Interfaces use the I prefix and live in a file of the same name"
  | repositoryPattern =>
    "Repository interfaces in domain, implementations in infrastructure/repositories with DI"
  | servicePattern =>
    "Service interfaces in application, service classes with constructor injection"
  | errorInheritance => "Error classes extend DomainError (or Error outside the domain)"
  | typeQuality => "Avoid the untyped `any` escape hatch"

/-- The codes that a rule's findings may have. -/
def codes : Rule → List Code
  | layerDependency => [.layerViolation]
  | interfaceConvention => [.interfaceNaming, .fileNaming, .multipleInterfaces]
  | repositoryPattern => [.repositoryLocation, .repositoryDi]
  | servicePattern => [.serviceLocation, .serviceDi]
  | errorInheritance => [.errorInheritance, .useDomainError]
  | typeQuality => [.anyType]

/-- The names of all rules. -/
def names : List String := all.map name

/-- The rule of a name. -/
def ofName? (s : String) : Option Rule := all.find? (·.name = s)

/-- What a rule finds in parsed files. -/
def findings (c : Classifier) (files : List SourceFile) : Rule → List Finding
  | layerDependency => LayerDependency.findings c files
  | interfaceConvention => InterfaceConvention.findings files
  | repositoryPattern => RepositoryPattern.findings c files
  | servicePattern => ServicePattern.findings c files
  | errorInheritance => ErrorInheritance.findings c files
  | typeQuality => TypeQuality.findings files

/-- Records what a rule finds in the files of a cache. -/
def check (c : Classifier) (cache : Cache) (store : Store) (r : Rule) : Store :=
  store.recordAll (r.findings c cache.files)

end Rule

end LayerAudit
