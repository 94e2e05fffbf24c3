import LayerAudit.Cache
import LayerAudit.Layer

/-!
# Dependencies between layers

An import must not lead from a layer to one further out. Imports that leave the project's layers,
stay in a layer or lead to shared helpers are free.
-/

namespace LayerAudit.Rule.LayerDependency

/-- The finding about an import of a file in a given layer, if there is one. -/
def importFinding? (c : Classifier) (file : SourceFile) (own : Layer) (i : Import) :
    Option Finding :=
  match c.layerOfImport i.specifier file.path with
  | none => none
  | some other =>
    if own.forbids other then
      some ⟨file.path, some i.line, .layerViolation,
        own.segment ++ " layer cannot depend on " ++ other.segment ++ " layer (import '" ++
          i.specifier ++ "')"⟩
    else none

/-- The findings about a file's imports. -/
def fileFindings (c : Classifier) (file : SourceFile) : List Finding :=
  match c.layerOfFile file.path with
  | none => []
  | some own => file.facts.imports.filterMap (importFinding? c file own)

/-- The findings about files. -/
def findings (c : Classifier) (files : List SourceFile) : List Finding :=
  files.flatMap (fileFindings c)

end LayerAudit.Rule.LayerDependency
