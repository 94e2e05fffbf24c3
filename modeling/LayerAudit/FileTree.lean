import LayerAudit.Path.Basic
import LayerAudit.Text.Utf8

/-!
# File trees

A file system as a value: files with their bytes, directories with named entries, and links to other
paths. A path is followed piece by piece, links as they are met, so that two dots lead to the
directory that a link leads out of.

A file may be there and yet not be readable, for want of a permission or because a device fails.
-/

namespace LayerAudit

/-- Why a file that is there cannot be read: what the system says of it, on one line, and the number
that the system has for it. -/
structure ReadFault where
  wording : String
  number : Nat
  oneLine : '\n' ∉ wording.toList := by decide
  deriving DecidableEq, Repr

/-- The reader lacks a permission. -/
def ReadFault.denied : ReadFault := { wording := "Permission denied", number := 13 }

instance : Inhabited ReadFault := ⟨.denied⟩

/-- What a file holds: its bytes, unless it cannot be read. -/
abbrev Content := Except ReadFault (List UInt8)

instance : Coe (List UInt8) Content := ⟨.ok⟩

/-- What a name in a directory stands for. -/
inductive Entry where
  | file (content : Content)
  | directory (entries : List (String × Entry))
  | link (target : Path)
  deriving Repr, Inhabited

/-- Why nothing is read at a path: it leads to no file, or the file cannot be read. -/
inductive PathFault where
  | notFound
  | notDirectory
  | isDirectory
  | tooManyLinks
  | unreadable (fault : ReadFault)
  deriving DecidableEq, Repr, Inhabited

/-- The wording of a fault, with its number. -/
def PathFault.message : PathFault → String
  | .notFound => "No such file or directory (os error 2)"
  | .notDirectory => "Not a directory (os error 20)"
  | .isDirectory => "Is a directory (os error 21)"
  | .tooManyLinks => "Too many levels of symbolic links (os error 40)"
  | .unreadable fault => fault.wording ++ " (os error " ++ toString fault.number ++ ")"

/-- A file system, by the entries of its top directory. -/
structure FileTree where
  entries : List (String × Entry)
  deriving Repr, Inhabited

namespace Entry

/-- The entry of a name in a directory. -/
def child? (name : String) : Entry → Option Entry
  | directory entries => entries.lookup name
  | _ => none

/-- Whether the entry is a directory. -/
def isDirectory : Entry → Bool
  | directory _ => true
  | _ => false

/-- Whether the entry is a file. -/
def isFile : Entry → Bool
  | file _ => true
  | _ => false

/-- Sets a name in entries, or removes it. -/
def setIn (name : String) (entry : Option Entry) : List (String × Entry) → List (String × Entry)
  | [] => (entry.map fun e => (name, e)).toList
  | (other, kept) :: rest =>
    if other = name then (entry.map fun e => (name, e)).toList ++ rest
    else (other, kept) :: setIn name entry rest

/-- Sets what lies at a place below an entry, or removes it. Only directories on the way count. -/
def setAt (entry : Option Entry) : List String → Entry → Entry
  | [], old => entry.getD old
  | [name], directory entries => directory (setIn name entry entries)
  | name :: rest, directory entries =>
    match entries.lookup name with
    | some old => directory (setIn name (some (setAt entry rest old)) entries)
    | none => directory entries
  | _, old => old

end Entry

namespace FileTree

/-- A file system without any file. -/
def empty : FileTree := ⟨[]⟩

/-- The top directory. -/
def top (t : FileTree) : Entry := .directory t.entries

/-- The entry at a place, given by names from the top; links are not followed. -/
def at? (t : FileTree) (place : List String) : Option Entry :=
  place.foldl (fun found name => found.bind (Entry.child? name)) (some t.top)

/-- The pieces of a path, between slashes. -/
def pieces (p : Path) : List String := (Path.segments p.text.toList).map String.ofList

/-- The number of links that are followed on one way. -/
def maxLinks : Nat := 40

/-- Follows pieces of a path from a directory, given by names with the last first. Gives the place
that they lead to, in the same form. -/
def follow (t : FileTree) (links : Nat) (here : List String) (pending : List String) :
    Except PathFault (List String) :=
  match pending with
  | [] => .ok here
  | piece :: rest =>
    match t.at? here.reverse with
    | some (.directory entries) =>
      if piece = "" ∨ piece = "." then follow t links here rest
      else if piece = ".." then follow t links (here.drop 1) rest
      else
        match entries.lookup piece with
        | none => .error .notFound
        | some (.link target) =>
          match links with
          | 0 => .error .tooManyLinks
          | links + 1 =>
            follow t links (if target.isAbsolute then [] else here) (pieces target ++ rest)
        | some _ => follow t links (piece :: here) rest
    | _ => .error .notDirectory
  termination_by (links, pending.length)

/-- The place that a path leads to. -/
def resolve (t : FileTree) (p : Path) : Except PathFault (List String) :=
  if p.text.isEmpty then .error .notFound
  else (t.follow maxLinks [] (pieces p)).map List.reverse

/-- What a path leads to. -/
def find (t : FileTree) (p : Path) : Except PathFault Entry := do
  match t.at? (← t.resolve p) with
  | some entry => return entry
  | none => throw .notFound

/-- Whether a path leads to anything. -/
def holds (t : FileTree) (p : Path) : Bool := (t.find p).isOk

/-- Whether a path leads to a file. -/
def isFile (t : FileTree) (p : Path) : Bool := (t.find p).toOption.any Entry.isFile

/-- Whether a path leads to a directory. -/
def isDirectory (t : FileTree) (p : Path) : Bool := (t.find p).toOption.any Entry.isDirectory

/-- The bytes of a file, if it can be read. -/
def read (t : FileTree) (p : Path) : Except PathFault (List UInt8) := do
  match ← t.find p with
  | .file content => content.mapError .unreadable
  | .directory _ => throw .isDirectory
  | .link _ => throw .notFound

/-- Sets what lies at a place, or removes it. -/
def setAt (t : FileTree) (place : List String) (entry : Option Entry) : FileTree :=
  match t.top.setAt entry place with
  | .directory entries => ⟨entries⟩
  | _ => t

/-- The directory part of a path, as it is written, and the piece behind it. -/
def splitLast (p : Path) : Path × String :=
  let all := pieces p
  let directory :=
    match all.dropLast with
    | [] => "."
    | [""] => "/"
    | before => String.intercalate "/" before
  (⟨directory⟩, all.getLastD "")

/-- The place at which a file of a path would be made: its directory must be there, and a link that
leads nowhere is followed. -/
def placeFor (t : FileTree) : Nat → Path → Except PathFault (List String)
  | 0, _ => .error .tooManyLinks
  | limit + 1, p => do
    match t.resolve p with
    | .ok place => return place
    | .error .notFound =>
      let (directory, name) := splitLast p
      let place ← t.resolve directory
      if name = "" ∨ name = "." ∨ name = ".." then throw .notFound
      else
        match t.at? (place ++ [name]) with
        | some (.link target) => placeFor t limit (directory.join target)
        | some _ => throw .notFound
        | none =>
          match t.at? place with
          | some (.directory _) => return place ++ [name]
          | _ => throw .notDirectory
    | .error fault => throw fault

/-- Writes a file, in place of an older one. A file that cannot be read is not written either. -/
def write (t : FileTree) (p : Path) (bytes : List UInt8) : Except PathFault FileTree := do
  let place ← t.placeFor maxLinks p
  match t.at? place with
  | some (.directory _) => throw .isDirectory
  | some (.file (.error fault)) => throw (.unreadable fault)
  | _ => return t.setAt place (some (.file bytes))

/-- Makes a directory if nothing is there. -/
def makeDirectory (t : FileTree) (p : Path) : FileTree :=
  if t.holds p then t
  else
    match t.placeFor maxLinks p with
    | .ok place => t.setAt place (some (.directory []))
    | .error _ => t

/-- Makes a directory with all directories above it. -/
def makeDirectories (t : FileTree) (p : Path) : FileTree :=
  let steps := (List.range p.components.length).map fun n =>
    Path.ofComponents (p.components.take (n + 1))
  steps.foldl makeDirectory t

/-- Makes what lies at a path, with all directories above it; what was there gives way to it, except
that files are written through links. -/
def put (t : FileTree) (p : Path) (entry : Entry) : FileTree :=
  let t := t.makeDirectories ((p.parent?).getD ⟨"/"⟩)
  match entry with
  | .file (.ok bytes) => (t.write p bytes).toOption.getD t
  | .directory _ => t.makeDirectories p
  | .file (.error _) | .link _ =>
    match t.placeFor maxLinks p with
    | .ok place => t.setAt place (some entry)
    | .error _ => t

/-- Puts an entry with all that lies below it at a path. -/
def mount (t : FileTree) (p : Path) (entry : Entry) : FileTree :=
  let t := t.makeDirectories ((p.parent?).getD ⟨"/"⟩)
  match t.placeFor maxLinks p with
  | .ok place => t.setAt place (some entry)
  | .error _ => t

/-- Whether the last piece of a path is the name of a link. -/
def isLink (t : FileTree) (p : Path) : Bool :=
  let (directory, name) := splitLast p
  match t.resolve directory with
  | .ok place =>
    match t.at? (place ++ [name]) with
    | some (.link _) => true
    | _ => false
  | .error _ => false

/-- Removes what lies at a path; a link is removed and not followed. -/
def remove (t : FileTree) (p : Path) : FileTree :=
  let (directory, name) := splitLast p
  match t.resolve directory with
  | .ok place => t.setAt (place ++ [name]) none
  | .error _ => t

end FileTree

end LayerAudit
