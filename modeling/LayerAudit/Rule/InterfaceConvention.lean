import LayerAudit.Cache

/-!
# Interfaces and their files

An interface's name starts with a capital I and another capital letter. A file with one interface is
named after it, and a file should not have more than one.
-/

namespace LayerAudit.Rule.InterfaceConvention

/-- Whether a name is a capital I followed by a capital letter of the plain alphabet. -/
def isPrefixed (name : String) : Bool :=
  match name.toList with
  | 'I' :: c :: _ => c.isUpper
  | _ => false

/-- The finding about an interface's name. -/
def namingFindings (file : SourceFile) (i : Interface) : List Finding :=
  if isPrefixed i.name then []
  else
    [⟨file.path, some i.line, .interfaceNaming,
      "Interface '" ++ i.name ++ "' should be prefixed with 'I' (e.g. 'I" ++ i.name ++ "')"⟩]

/-- The finding about the name of a file with one interface. -/
def fileNamingFindings (file : SourceFile) (i : Interface) : List Finding :=
  if file.baseName = i.name then []
  else
    [⟨file.path, some i.line, .fileNaming,
      "File '" ++ file.baseName ++ "' should be named after its interface '" ++ i.name ++ "'"⟩]

/-- The finding about a file with several interfaces. -/
def multipleFinding (file : SourceFile) : Finding :=
  ⟨file.path, none, .multipleInterfaces,
    "File declares " ++ toString file.facts.interfaces.length ++
      " interfaces; consider one interface per file"⟩

/-- The findings about a file. That it has several interfaces is said once, behind what is said of
the first one's name. -/
def fileFindings (file : SourceFile) : List Finding :=
  match file.facts.interfaces with
  | [] => []
  | [i] => namingFindings file i ++ fileNamingFindings file i
  | i :: rest =>
    namingFindings file i ++ multipleFinding file :: rest.flatMap (namingFindings file)

/-- The findings about files. -/
def findings (files : List SourceFile) : List Finding := files.flatMap fileFindings

end LayerAudit.Rule.InterfaceConvention
