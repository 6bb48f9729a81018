/-
What a shell script works on: its parameters, its files and its channels.  What is
written is kept in buffers, the first of which hold what leaves the script; what is read
comes from sources that all who read from one share.
-/
import TaskScript.Files.Workspace
import TaskScript.Shell.Command
import TaskScript.Shell.Dialect
import TaskScript.Text.Utf8

namespace TaskScript.Shell

/-- A variable, which need not have a value to be exported or frozen. -/
structure Setting where
  value? : Option String := none
  exported : Bool := false
  /-- It can no longer be changed. -/
  frozen : Bool := false
  deriving DecidableEq, Repr

/-- Where a channel leads. -/
inductive Channel where
  | buffer (index : Nat)
  | source (index : Nat)
  | file (location : Location)
  /-- What is written is lost, and there is nothing to read. -/
  | void
  deriving DecidableEq, Repr

structure Options where
  /-- A command that fails ends the script. -/
  errorExit : Bool := false
  /-- A parameter that is not set ends the script. -/
  noUnset : Bool := false
  /-- Commands are shown before they are carried out. -/
  trace : Bool := false
  noGlob : Bool := false
  /-- Commands are read only. -/
  noExecution : Bool := false
  exportAll : Bool := false
  deriving DecidableEq, Repr

structure State where
  /-- What the script is called in complaints. -/
  program : String
  dialect : Dialect := .dash
  workspace : Workspace
  settings : List (String × Setting) := []
  arguments : List String := []
  functions : List (String × Command) := []
  /-- What is carried out at a signal, or at the end. -/
  traps : List (String × String) := []
  options : Options := {}
  status : Nat := 0
  /-- The status of the last script in a word. -/
  outputStatus : Nat := 0
  /-- What the variables of the function were before, if one is carried out. -/
  shadowed? : Option (List (String × Setting)) := none
  /-- What comes before complaints about commands that another one carries out. -/
  context : String := ""
  /-- The line of the command that is carried out. -/
  line : Nat := 1
  /-- How many loops surround it. -/
  loops : Nat := 0
  channels : List (Nat × Channel) := [(0, .source 0), (1, .buffer 0), (2, .buffer 1)]
  /-- What was written, each buffer with the last byte first. -/
  buffers : List (List UInt8) := [[], []]
  /-- What is left to be read. -/
  sources : List (List UInt8) := [[]]

/-- Why the commands that follow are not carried out. -/
inductive Halt where
  /-- The shell ends with the status that is set. -/
  | exit
  | killed
  /-- There is no end in sight. -/
  | exhausted
  /-- A function or a file that was read in ends. -/
  | returned
  /-- So many loops end. -/
  | broken (loops : Nat)
  /-- So many loops less one end, and the next turn of the last begins. -/
  | continued (loops : Nat)
  deriving DecidableEq, Repr

abbrev Action := EStateM Halt State

/-- The number under which a script knows itself. -/
def ownNumber : String := "2"

namespace State

def setting (state : State) (name : String) : Setting :=
  (state.settings.lookup name).getD {}

def value? (state : State) (name : String) : Option String := (state.setting name).value?

/-- Changes a variable. -/
def update (state : State) (name : String) (change : Setting → Setting) : State :=
  let changed := change (state.setting name)
  if (state.settings.lookup name).isSome then
    { state with
      settings := state.settings.map fun entry =>
        if entry.1 = name then (name, changed) else entry }
  else { state with settings := (name, changed) :: state.settings }

def assign (state : State) (name value : String) : State :=
  state.update name fun setting =>
    { setting with
      value? := some value, exported := setting.exported || state.options.exportAll }

/-- The characters at which values are split. -/
def separators (state : State) : List Char :=
  ((state.value? "IFS").getD " \t\n").toList

/-- What joins the arguments to one text. -/
def joiner (state : State) : String :=
  match state.value? "IFS" with
  | some ifs => String.ofList (ifs.toList.take 1)
  | none => " "

def optionLetters (state : State) : String :=
  String.ofList <|
    (if state.options.errorExit then ['e'] else []) ++
    (if state.options.noGlob then ['f'] else []) ++
    (if state.options.noExecution then ['n'] else []) ++
    (if state.options.trace then ['x'] else []) ++
    (if state.options.exportAll then ['a'] else []) ++
    (if state.options.noUnset then ['u'] else [])

/-- The value of a parameter, which may be a sign or a number. -/
def parameter? (state : State) (name : String) : Option String :=
  match name with
  | "?" => some (toString state.status)
  | "$" => some ownNumber
  | "#" => some (toString state.arguments.length)
  | "-" => some state.optionLetters
  | "!" => none
  | "@" | "*" =>
      if state.arguments.isEmpty then none else some (state.joiner.intercalate state.arguments)
  | name =>
      if name.toList.all Char.isDigit then
        match name.toNat? with
        | some 0 => some state.program
        | some n => state.arguments[n - 1]?
        | none => none
      else state.value? name

/-- The variables that commands see, as names with values. -/
def surroundings (state : State) : List (String × String) :=
  state.settings.filterMap fun (name, setting) =>
    if setting.exported then setting.value?.map fun value => (name, value) else none

/-- With these variables for commands to see and no others. -/
def surroundedBy (state : State) (surroundings : List (String × String)) : State :=
  { state with
    settings := surroundings.map fun (name, value) =>
      (name, { value? := some value, exported := true }) }

def channel? (state : State) (number : Nat) : Option Channel := state.channels.lookup number

/-- Leads a channel elsewhere, or nowhere. -/
def connect (state : State) (number : Nat) (channel? : Option Channel) : State :=
  let others := state.channels.filter (·.1 ≠ number)
  { state with channels := (channel?.map fun channel => (number, channel)).toList ++ others }

/-- Appends to what a channel leads to; nothing is written to what can only be read. -/
def write (state : State) (number : Nat) (bytes : List UInt8) : State :=
  match state.channel? number with
  | some (.buffer index) =>
      { state with buffers := state.buffers.modify index (bytes.reverseAux ·) }
  | some (.file location) =>
      let before :=
        match state.workspace.node? location with
        | some (.file contents) => contents
        | _ => ""
      { state with
        workspace := state.workspace.put location (.file (before ++ Text.decodeBytes bytes)) }
  | some (.source _) | some .void | none => state

/-- Everything that was written to a buffer. -/
def written (state : State) (index : Nat) : List UInt8 := (state.buffers.getD index []).reverse

/-- What is left to be read on a channel. -/
def unread (state : State) (number : Nat) : List UInt8 :=
  match state.channel? number with
  | some (.source index) => state.sources.getD index []
  | _ => []

/-- Leaves `rest` to be read on a channel. -/
def leave (state : State) (number : Nat) (rest : List UInt8) : State :=
  match state.channel? number with
  | some (.source index) => { state with sources := state.sources.set index rest }
  | _ => state

/-- Opens a source on a channel. -/
def feed (state : State) (number : Nat) (bytes : List UInt8) : State :=
  { state with sources := state.sources ++ [bytes] }.connect number
    (some (.source state.sources.length))

end State

namespace Action

/-- Complains on a line of its own, which names the script and the line in it. -/
def complainOf (text : String) : Action Unit := modify fun state =>
  state.write 2 (Text.encodeText (state.dialect.place state.program state.line ++ text ++ "\n"))

/-- Complains about a command. -/
def complain (text : String) : Action Unit := do
  let state ← get
  complainOf (if state.dialect = .dash then state.context ++ text else text)

def setStatus (status : Nat) : Action Unit := modify fun state => { state with status }

/-- Ends the shell with a complaint. -/
def fail {α : Type} (text : String) : Action α := do
  complain text
  setStatus (← get).dialect.failureStatus
  throw .exit

/-- Gives a variable a value unless it is frozen. -/
def assign (name value : String) : Action Unit := do
  let state ← get
  if (state.setting name).frozen then fail s!"{name}: {state.dialect.frozenFault}"
  modify fun state => state.assign name value

/-- Carries out an action whose changes to the shell itself are forgotten: only what was
written and read, the files and the status stay.  The end of it ends nothing else, but
a script that is killed is killed as a whole. -/
def isolated (action : Action Unit) : Action Unit := do
  let before ← get
  let halt? ← tryCatch (do action; return none) fun halt => return some halt
  modify fun after =>
    { before with
      workspace := { after.workspace with current := before.workspace.current }
      buffers := after.buffers, sources := after.sources, status := after.status % 256 }
  match halt? with
  | some .exhausted => throw .exhausted
  | some .killed => throw .killed
  | _ => return ()

/-- Carries out an action and gives back what it wrote. -/
def captured (action : Action Unit) : Action (List UInt8) := do
  let before ← get
  let index := before.buffers.length
  set { before with buffers := before.buffers ++ [[]] }
  modify fun state => state.connect 1 (some (.buffer index))
  action
  let after ← get
  set { after with channels := before.channels, buffers := after.buffers.take index }
  return after.written index

end Action

end TaskScript.Shell
