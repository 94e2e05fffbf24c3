import LayerAudit.Command.Basic

/-!
# Arguments

How a request is read from the words of a command line. The words before the name of a command are
for the program, those behind it for the command. A word of two dashes and a name, or of one dash
and letters, gives switches; some of them take a value, from the same word or the next one. Two
dashes alone end the switches. No switch is given twice to the same reader, and no value is empty.
-/

namespace LayerAudit

/-- What a word with dashes can give. -/
inductive Switch where
  | verbose
  | config
  | detailed
  | json
  | format
  | fix
  | force
  | help
  | version
  deriving DecidableEq, Repr, Inhabited

namespace Switch

/-- The name behind two dashes. -/
def name : Switch → String
  | verbose => "verbose"
  | config => "config"
  | detailed => "detailed"
  | json => "json"
  | format => "format"
  | fix => "fix"
  | force => "force"
  | help => "help"
  | version => "version"

/-- The letter behind one dash. -/
def letter? : Switch → Option Char
  | verbose => some 'v'
  | config => some 'c'
  | format => some 'f'
  | help => some 'h'
  | version => some 'V'
  | _ => none

/-- Whether the switch takes a value. -/
def takesValue : Switch → Bool
  | config | format => true
  | _ => false

/-- Whether the switch makes the words behind it pointless. -/
def isFinal : Switch → Bool
  | help | version => true
  | _ => false

end Switch

/-- Who reads words. -/
inductive ArgumentReader where
  | program
  | check
  | listRules
  | init
  /-- The command that tells about commands. -/
  | help
  deriving DecidableEq, Repr, Inhabited

namespace ArgumentReader

/-- The commands. -/
def commands : List ArgumentReader := [check, listRules, init, help]

/-- The name of a command. -/
def name : ArgumentReader → String
  | program => "layerguard"
  | check => "check"
  | listRules => "list-rules"
  | init => "init"
  | help => "help"

/-- The command of a name. -/
def ofName? (word : String) : Option ArgumentReader := commands.find? (·.name = word)

/-- The switches that a reader knows. -/
def switches : ArgumentReader → List Switch
  | program => [.verbose, .config, .help, .version]
  | check => [.verbose, .config, .detailed, .json, .format, .fix, .help]
  | listRules => [.verbose, .config, .help]
  | init => [.verbose, .config, .force, .help]
  | help => []

/-- The number of words that a reader takes without dashes. -/
def operands : ArgumentReader → Nat
  | check => 1
  | _ => 0

/-- Whether a word ends what a reader reads. -/
def endsAt (word : String) : ArgumentReader → Bool
  | program => (ofName? word).isSome
  | _ => false

/-- The switch of a name. -/
def named? (r : ArgumentReader) (name : String) : Option Switch :=
  r.switches.find? (·.name = name)

/-- The switch of a letter. -/
def lettered? (r : ArgumentReader) (letter : Char) : Option Switch :=
  r.switches.find? (·.letter? = some letter)

end ArgumentReader

/-- What a word gives to its reader. -/
inductive Given where
  | switch (which : Switch)
  | value (which : Switch) (text : String)
  | operand (text : String)
  deriving DecidableEq, Repr, Inhabited

/-- What a word is. -/
inductive Word where
  /-- Two dashes alone. -/
  | dashes
  /-- Two dashes and a name, and maybe a value behind an equals sign. -/
  | long (name : String) (value : Option String)
  /-- One dash and letters. -/
  | short (letters : List Char)
  | plain (text : String)
  deriving DecidableEq, Repr, Inhabited

/-- Tells what a word is. -/
def Word.ofString (s : String) : Word :=
  match s.toList with
  | ['-', '-'] => dashes
  | '-' :: '-' :: rest =>
    let behind := rest.dropWhile (· != '=')
    let value := if behind.isEmpty then none else some (String.ofList (behind.drop 1))
    long (String.ofList (rest.takeWhile (· != '='))) value
  | ['-'] => plain s
  | '-' :: letters => short letters
  | _ => plain s

namespace ArgumentReader

/-- Reads letters. A letter whose switch takes a value has the rest of the word for it; if there is
no rest, the switch is left waiting. -/
def readLetters (r : ArgumentReader) : List Char → Option (List Given × Option Switch)
  | [] => some ([], none)
  | letter :: rest => do
    let s ← r.lettered? letter
    if s.takesValue then
      match rest with
      | [] => return ([], some s)
      | '=' :: value => return ([.value s (String.ofList value)], none)
      | value => return ([.value s (String.ofList value)], none)
    else if s.isFinal then return ([.switch s], none)
    else
      let (given, waiting) ← r.readLetters rest
      return (.switch s :: given, waiting)

/-- Whether nothing behind what was given counts. -/
def isOver (given : List Given) : Bool :=
  match given.getLast? with
  | some (.switch s) => s.isFinal
  | _ => false

mutual

/-- Reads words up to the name of a command, which is left with all behind it. -/
def readWords (r : ArgumentReader) : List String → Option (List Given × List String)
  | [] => some ([], [])
  | word :: rest =>
    if r.endsAt word then some ([], word :: rest)
    else
      match Word.ofString word with
      | .dashes => some (rest.map .operand, [])
      | .plain text => do
        let (given, left) ← r.readWords rest
        return (.operand text :: given, left)
      | .long name value => do
        let s ← r.named? name
        if s.takesValue then
          match value with
          | some text =>
            let (given, left) ← r.readWords rest
            return (.value s text :: given, left)
          | none => r.readValue s rest
        else if value.isSome then none
        else if s.isFinal then return ([.switch s], [])
        else
          let (given, left) ← r.readWords rest
          return (.switch s :: given, left)
      | .short letters => do
        let (first, waiting) ← r.readLetters letters
        if isOver first then return (first, [])
        else
          let (given, left) ←
            match waiting with
            | some s => r.readValue s rest
            | none => r.readWords rest
          return (first ++ given, left)

/-- Reads the value that a switch waits for, and the words behind it. -/
def readValue (r : ArgumentReader) (s : Switch) : List String → Option (List Given × List String)
  | [] => none
  | word :: rest =>
    match Word.ofString word with
    | .plain text => do
      let (given, left) ← r.readWords rest
      return (.value s text :: given, left)
    | _ => none

end

end ArgumentReader

/-- The formats that can be asked for, by name. -/
def formatChoices : List (String × Report.Format) := [("text", .console), ("json", .json)]

/-- What a reader was given. -/
structure Arguments where
  switches : List Switch
  values : List (Switch × String)
  operands : List String
  deriving DecidableEq, Repr, Inhabited

namespace Arguments

/-- No arguments. -/
def empty : Arguments := ⟨[], [], []⟩

/-- The value of a switch. -/
def value? (a : Arguments) (s : Switch) : Option String := a.values.lookup s

/-- Whether a switch was given. -/
def has (a : Arguments) (s : Switch) : Bool := a.switches.contains s

/-- Whether a value is one that its switch can take. -/
def isValue (s : Switch) (text : String) : Bool :=
  !text.isEmpty && (s != .format || (formatChoices.lookup text).isSome)

/-- Takes what is given if its reader can have it. -/
def take (r : ArgumentReader) (a : Arguments) : Given → Option Arguments
  | .switch s => if a.has s then none else some { a with switches := a.switches ++ [s] }
  | .value s text =>
    if (a.value? s).isSome || !isValue s text then none
    else some { a with values := a.values ++ [(s, text)] }
  | .operand text =>
    if r.operands ≤ a.operands.length || text.isEmpty then none
    else some { a with operands := a.operands ++ [text] }

/-- Takes all that is given to a reader. -/
def ofGiven (r : ArgumentReader) (given : List Given) : Option Arguments :=
  given.foldlM (take r) empty

/-- The format that is asked for. -/
def format? (a : Arguments) : Option Report.Format :=
  if a.has .json then some .json
  else (a.value? .format).bind fun text => formatChoices.lookup text

/-- The command that arguments to it make. -/
def command? (a : Arguments) : ArgumentReader → Option Command
  | .check =>
    if a.has .json && (a.value? .format).isSome then none
    else
      some (.check
        { project := ⟨a.operands.head?.getD "."⟩
          detailed := a.has .detailed
          format := a.format?
          fix := a.has .fix })
  | .listRules => some .listRules
  | .init => some (.init (a.has .force))
  | _ => none

end Arguments

namespace Request

/-- The request for a command, given what the program was given and the words for the command. The
configuration that is named last counts. -/
def ofCommand (before : Arguments) (r : ArgumentReader) (words : List String) :
    Option Request := do
  let (given, _) ← r.readWords words
  let a ← Arguments.ofGiven r given
  if a.has .help then return help
  let command ← a.command? r
  let config := (a.value? .config <|> before.value? .config).map Path.mk
  return run (a.has .verbose || before.has .verbose) config command

/-- The request for help with commands, given by name. -/
def ofTopics : List String → Option Request
  | [] => some help
  | [topic] => (ArgumentReader.ofName? topic).map fun _ => help
  | _ => none

/-- Reads a request from the words of a command line. -/
def ofWords (words : List String) : Option Request := do
  let (given, left) ← ArgumentReader.program.readWords words
  let before ← Arguments.ofGiven .program given
  if before.has .help then return help
  if before.has .version then return version
  match left with
  | [] => none
  | name :: rest =>
    match ← ArgumentReader.ofName? name with
    | .help => ofTopics rest
    | r => ofCommand before r rest

end Request

end LayerAudit
