import LayerAudit.Cache
import LayerAudit.Layer

/-!
# Services

Contracts of services are declared in the application, and services take what they need through a
constructor.
-/

namespace LayerAudit.Rule.ServicePattern

/-- Ends the name of a service. -/
def ending : String := "Service"

/-- Whether a name is that of a service. -/
def isMarked (name : String) : Bool := ending.toList.isSuffixOf name.toList

/-- The finding about a service's contract. -/
def contractFindings (c : Classifier) (file : SourceFile) (i : Interface) : List Finding :=
  if c.layerOfFile file.path = some .application then []
  else
    [⟨file.path, some i.line, .serviceLocation,
      "Service interface '" ++ i.name ++ "' should be declared in the application layer"⟩]

/-- The finding about a service's constructor. -/
def constructorFindings (file : SourceFile) (k : Class) : List Finding :=
  if k.hasConstructor then []
  else
    [⟨file.path, some k.line, .serviceDi,
      "Service '" ++ k.name ++ "' should receive its dependencies through a constructor"⟩]

/-- The findings about a file: its contracts before its services. -/
def fileFindings (c : Classifier) (file : SourceFile) : List Finding :=
  (file.facts.interfaces.filter fun i => isMarked i.name).flatMap (contractFindings c file) ++
    (file.facts.classes.filter fun k => isMarked k.name).flatMap (constructorFindings file)

/-- The findings about files. -/
def findings (c : Classifier) (files : List SourceFile) : List Finding :=
  files.flatMap (fileFindings c)

end LayerAudit.Rule.ServicePattern
