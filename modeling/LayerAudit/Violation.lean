/-!
# Violations

What the checks report: a code from a fixed list, the file, the line if the finding has one, and a
message. Each code has one severity that it is recorded with.
-/

namespace LayerAudit

/-- How much a finding weighs. -/
inductive Severity where
  /-- Shown on demand. -/
  | info
  /-- Should be mended. -/
  | warning
  /-- Must be mended. -/
  | error
  deriving DecidableEq, Repr, Inhabited

namespace Severity

/-- The severities, the lightest first. -/
def all : List Severity := [info, warning, error]

/-- The name of a severity. -/
def name : Severity → String
  | info => "info"
  | warning => "warning"
  | error => "error"

/-- The place of a severity in their order. -/
def rank : Severity → Nat
  | info => 0
  | warning => 1
  | error => 2

/-- Compares the weight of two severities. -/
def compare (a b : Severity) : Ordering := Ord.compare a.rank b.rank

end Severity

/-- The findings that there are. -/
inductive Code where
  | parseError
  | layerViolation
  | interfaceNaming
  | fileNaming
  | multipleInterfaces
  | repositoryLocation
  | repositoryDi
  | serviceLocation
  | serviceDi
  | errorInheritance
  | useDomainError
  | anyType
  deriving DecidableEq, Repr, Inhabited

namespace Code

/-- The codes, in the order in which they are listed. -/
def all : List Code :=
  [parseError, layerViolation, interfaceNaming, fileNaming, multipleInterfaces, repositoryLocation,
    repositoryDi, serviceLocation, serviceDi, errorInheritance, useDomainError, anyType]

/-- The name of a code. -/
def name : Code → String
  | parseError => "PARSE_ERROR"
  | layerViolation => "LAYER_VIOLATION"
  | interfaceNaming => "INTERFACE_NAMING"
  | fileNaming => "FILE_NAMING"
  | multipleInterfaces => "MULTIPLE_INTERFACES"
  | repositoryLocation => "REPOSITORY_LOCATION"
  | repositoryDi => "REPOSITORY_DI"
  | serviceLocation => "SERVICE_LOCATION"
  | serviceDi => "SERVICE_DI"
  | errorInheritance => "ERROR_INHERITANCE"
  | useDomainError => "USE_DOMAIN_ERROR"
  | anyType => "ANY_TYPE"

/-- The severity that a code is recorded with. -/
def severity : Code → Severity
  | parseError | layerViolation | repositoryLocation | errorInheritance => .error
  | interfaceNaming | fileNaming | repositoryDi | serviceLocation | serviceDi | useDomainError
  | anyType => .warning
  | multipleInterfaces => .info

/-- What a code says, in a few words. -/
def description : Code → String
  | parseError => "file could not be read or parsed"
  | layerViolation => "import breaks infrastructure -> application -> domain"
  | interfaceNaming => "interface name must start with `I`"
  | fileNaming => "file name must match its single interface"
  | multipleInterfaces => "file declares more than one interface"
  | repositoryLocation =>
    "repository interfaces belong in domain, classes in infrastructure/repositories"
  | repositoryDi => "repository class must declare a constructor"
  | serviceLocation => "service interfaces belong in application"
  | serviceDi => "service class must declare a constructor"
  | errorInheritance => "error class must extend DomainError or Error"
  | useDomainError => "domain error class should extend DomainError"
  | anyType => "avoid `any` type annotations"

/-- Every code is listed. -/
theorem mem_all (c : Code) : c ∈ all := by cases c <;> decide

/-- Codes are told apart by their names. -/
theorem name_injective {a b : Code} (h : a.name = b.name) : a = b := by
  cases a <;> cases b <;> first | rfl | exact absurd h (by decide)

end Code

/-- A finding about a file. -/
structure Violation where
  severity : Severity
  /-- The file, as it is shown to those who know the source root. -/
  file : String
  /-- The line, counted from one; none for a finding about the whole file. -/
  line : Option Nat
  code : Code
  message : String
  deriving DecidableEq, Repr, Inhabited

namespace Violation

/-- The file, with the line if there is one. -/
def location (v : Violation) : String :=
  match v.line with
  | some line => v.file ++ ":" ++ toString line
  | none => v.file

/-- The violation on one line of text. -/
def display (v : Violation) : String :=
  v.location ++ " [" ++ v.code.name ++ "] " ++ v.message

end Violation

end LayerAudit
