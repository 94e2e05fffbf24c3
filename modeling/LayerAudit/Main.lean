import LayerAudit.Command.Run

/-!
# The program

Takes a picture of the files that a request looks at, runs the request on the picture, and carries
out what it comes to.
-/

namespace LayerAudit

/-- What the system says of a reading that it does not let happen. -/
def ReadFault.ofError : IO.Error → ReadFault
  | .permissionDenied _ number wording
  | .noFileOrDirectory _ number wording
  | .inappropriateType _ number wording
  | .invalidArgument _ number wording
  | .resourceExhausted _ number wording
  | .noSuchThing _ number wording
  | .alreadyExists _ number wording
  | .interrupted _ number wording
  | .hardwareFault number wording
  | .resourceBusy number wording
  | .resourceVanished number wording
  | .unsupportedOperation number wording
  | .unsatisfiedConstraints number wording
  | .illegalOperation number wording
  | .protocolError number wording
  | .timeExpired number wording
  | .otherError number wording =>
    if h : '\n' ∈ wording.toList then .denied else ⟨wording, number.toNat, h⟩
  | .unexpectedEof | .userError _ => .denied

/-- What a file holds. -/
def contentOf (e : IO.FS.DirEntry) : IO Content := do
  try
    let handle ← IO.FS.Handle.mk e.path .read
    return .ok (← handle.readBinToEnd).toList
  catch fault => return .error (.ofError fault)

/-- The entries of a directory, none if it cannot be listed. -/
def entriesOf (e : IO.FS.DirEntry) : IO (Array IO.FS.DirEntry) := do
  try e.path.readDir
  catch _ => return #[]

/-- Takes a picture of an entry in a directory. Of directories that are not entered only the name is
kept, of links below the start nothing but that they are links. An entry that is known by its name alone
is taken for a file. -/
partial def picture (enters : String → Bool) (follow : Bool) (e : IO.FS.DirEntry) :
    IO (Option Entry) := do
  let about ← if follow then e.path.metadata else e.path.symlinkMetadata
  match about.type with
  | .file => return some (.file (← contentOf e))
  | .symlink => return some (.link ⟨""⟩)
  | .other => return none
  | .dir =>
    if !follow && !enters e.fileName then return some (.directory [])
    let mut entries := []
    for inner in ← entriesOf e do
      let entry? ←
        try picture enters false inner
        catch _ => pure (some (.file (← contentOf inner)))
      if let some entry := entry? then
        entries := (inner.fileName, entry) :: entries
    return some (.directory entries)

/-- Adds a picture of what lies at a path, if anything does, to surroundings. -/
def lookAt (enters : String → Bool) (s : Surroundings) (path : Path) : IO Surroundings := do
  let full := s.directory.join path
  try
    match ← picture enters true ⟨← IO.currentDir, full.text⟩ with
    | some entry => return { s with tree := s.tree.mount full entry }
    | none => return s
  catch _ => return s

/-- Adds pictures of all that a request looks at. -/
def lookFor (s : Surroundings) : Request → IO Surroundings
  | .run _ _ (.init _) => lookAt (fun _ => false) s Command.configFile
  | .run _ named (.check o) => do
    let files := ConfigSource.candidates o.project named s.globalDirectory
    let s ← files.foldlM (lookAt fun _ => false) s
    match Command.configOf s (Command.sourceOf s named o) with
    | .ok c =>
      let a := Command.analysisOf s o c
      lookAt (fun name => !a.collector.skips name) s a.root
    | .error _ => return s
  | _ => return s

/-- Runs the program on the words of a command line; gives the exit code. -/
def runProgram (words : List String) : IO UInt32 := do
  let output ← IO.getStdout
  let directory : Path := ⟨(← IO.currentDir).toString⟩
  let set ← IO.getEnv "LAYERGUARD_CONFIG_DIR"
  let home ← IO.getEnv "HOME"
  let s : Surroundings :=
    { tree := FileTree.empty.makeDirectories directory
      directory
      globalDirectory := ConfigSource.globalDirectory (set.map Path.mk) (home.map Path.mk)
      terminal := ← output.isTty }
  let s ←
    match Request.ofWords words with
    | some request => lookFor s request
    | none => pure s
  let outcome := runWords s words
  for remark in outcome.remarks do
    IO.eprintln remark
  if let some (path, text) := outcome.written then
    try IO.FS.writeFile ⟨path.text⟩ text
    catch _ =>
      IO.eprintln ("Error: Failed to write " ++ path.text)
      return UInt32.ofNat Outcome.failureCode
  output.putStr outcome.output
  output.flush
  return UInt32.ofNat outcome.exitCode

end LayerAudit

/-- The program. -/
def main (words : List String) : IO UInt32 := LayerAudit.runProgram words
