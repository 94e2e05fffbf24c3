import LayerAudit.Cache
import LayerAudit.Layer

/-!
# Error classes

A class with an error's name extends one of two base classes; in the domain it should be the
domain's own.
-/

namespace LayerAudit.Rule.ErrorInheritance

/-- Occurs in the name of an error class. -/
def marker : String := "Error"

/-- The domain's base class. -/
def domainBase : String := "DomainError"

/-- The language's base class. -/
def nativeBase : String := "Error"

/-- Whether a name is that of an error class. -/
def isMarked (name : String) : Bool := occursIn marker.toList name.toList

/-- The finding about an error class. -/
def classFindings (c : Classifier) (file : SourceFile) (k : Class) : List Finding :=
  let domain := k.extendsNamed domainBase
  let native := k.extendsNamed nativeBase
  if !domain && !native then
    [⟨file.path, some k.line, .errorInheritance,
      "Error class '" ++ k.name ++ "' must extend " ++ domainBase ++ " or " ++ nativeBase⟩]
  else if native && !domain && k.name != domainBase && c.layerOfFile file.path = some .domain then
    [⟨file.path, some k.line, .useDomainError,
      "Domain error '" ++ k.name ++ "' should extend " ++ domainBase ++ " instead of " ++
        nativeBase⟩]
  else []

/-- The findings about a file's error classes. -/
def fileFindings (c : Classifier) (file : SourceFile) : List Finding :=
  (file.facts.classes.filter fun k => isMarked k.name).flatMap (classFindings c file)

/-- The findings about files. -/
def findings (c : Classifier) (files : List SourceFile) : List Finding :=
  files.flatMap (fileFindings c)

end LayerAudit.Rule.ErrorInheritance
