/-
The commands that the shell carries out itself, as far as they carry out no other
commands.  A complaint of one that belongs to the grammar ends the shell; of any other it
only sets the status.
-/
import TaskScript.Shell.Expand
import TaskScript.Shell.Program
import TaskScript.Shell.Signal

namespace TaskScript.Shell

namespace Builtin

/-- Complains in the name of a command. -/
def refuse (name text : String) (status : Nat := 2) : Action Unit := do
  Action.complainOf s!"{name}: {text}"
  Action.setStatus status
  if fixedCommands.contains name && (← get).dialect = .dash then throw .exit

def write (text : String) : Action Unit :=
  modify fun state => state.write 1 (Text.encodeText text)

/-- Succeeds or fails. -/
def settle (success : Bool) : Action Unit := Action.setStatus (if success then 0 else 1)

/-- The number that an argument gives, if there is one. -/
def number (name : String) (arguments : List String) (standard : Nat) : Action Nat := do
  match arguments with
  | [] => return standard
  | word :: _ =>
      match (← get).dialect, decimal? word, Test.integer? word with
      | .dash, some n, _ => if n ≤ 2147483647 then return n else illegal word
      | .bash, _, some n => return (n % 256).toNat
      | _, _, _ => illegal word
where
  illegal (word : String) : Action Nat := do
    refuse name ((← get).dialect.numberFault word)
    throw .exit

def echo (words : List String) : Action Unit := do
  let state ← get
  let bytes :=
    match state.dialect with
    | .dash => echoBytes words
    | .bash =>
        (Program.echo { name := "echo", arguments := words, workspace := state.workspace }).out
  set (state.write 1 bytes)
  settle true

def print : List String → Action Unit
  | [] => refuse "printf" "usage: printf format [arg ...]"
  | "--" :: format :: arguments | format :: arguments => do
      let printing := printFormat format arguments
      modify fun state => state.write 1 printing.bytes
      for fault in printing.faults do
        Action.complainOf s!"printf: {fault.message}"
      Action.setStatus printing.status

def test (name : String) (words : List String) : Action Unit := do
  let judged : Except TestFault (List String) :=
    if name = "[" then
      if words.getLast? = some "]" then .ok words.dropLast else .error TestFault.missingBracket
    else .ok words
  match judged.bind (Test.check (← get).workspace) with
  | .ok value => settle value
  | .error fault => refuse name fault.message

/-- The name and the value of an argument that assigns. -/
def splitAssignment (word : String) : String × Option String :=
  let name := word.toList.takeWhile (· ≠ '=')
  match word.toList.dropWhile (· ≠ '=') with
  | _ :: value => (String.ofList name, some (String.ofList value))
  | [] => (String.ofList name, none)

/-- Marks variables, which may be given values at once. -/
def mark (name : String) (change : Setting → Setting) (words : List String) : Action Unit := do
  for word in words.filter (· ≠ "--") do
    let (target, value?) := splitAssignment word
    if !isName target.toList then refuse name s!"{target}: bad variable name"
    match value? with
    | some value => Action.assign target value
    | none => pure ()
    modify fun state => state.update target change
  settle true

/-- A value in quotes as it could stand in a script. -/
def quoted (value : String) : String :=
  String.ofList ('\x27' :: (value.toList.flatMap fun c =>
    if c = '\x27' then ['\x27', '"', '\x27', '"', '\x27'] else [c]) ++ ['\x27'])

/-- The variables that satisfy a condition, each on a line. -/
def listSettings (lead : String) (wanted : Setting → Bool) : Action Unit := do
  let chosen := ((← get).settings.filter fun entry => wanted entry.2).mergeSort
    fun a b => decide (a.1 ≤ b.1)
  for (name, setting) in chosen do
    match setting.value? with
    | some value => write s!"{lead}{name}={quoted value}\n"
    | none => write s!"{lead}{name}\n"
  settle true

def exportNames : List String → Action Unit
  | [] | ["-p"] => listSettings "export " Setting.exported
  | words => mark "export" (fun setting => { setting with exported := true }) words

def freezeNames : List String → Action Unit
  | [] | ["-p"] => listSettings "readonly " Setting.frozen
  | words => mark "readonly" (fun setting => { setting with frozen := true }) words

/-- Makes variables belong to the function that is carried out. -/
def localNames (words : List String) : Action Unit := do
  match (← get).shadowed? with
  | none => Action.fail "local: not in a function"
  | some _ =>
      for word in words do
        let (target, value?) := splitAssignment word
        if !isName target.toList then Action.fail s!"local: {target}: bad variable name"
        modify fun state =>
          { state with
            shadowed? := state.shadowed?.map fun shadowed =>
              if (shadowed.lookup target).isSome then shadowed
              else (target, state.setting target) :: shadowed }
        match value? with
        | some value => Action.assign target value
        | none => pure ()
      settle true

def forget (words : List String) : Action Unit := do
  let functions := words.head? = some "-f"
  for name in if functions ∨ words.head? = some "-v" then words.drop 1 else words do
    if functions then
      modify fun state => { state with functions := state.functions.filter (·.1 ≠ name) }
    else
      if !isName name.toList then refuse "unset" s!"{name}: bad variable name"
      if ((← get).setting name).frozen then refuse "unset" s!"{name}: is read only"
      modify fun state => { state with settings := state.settings.filter (·.1 ≠ name) }
  settle true

/-- Switches an option by its letter. -/
def switch (options : Options) (on : Bool) : Char → Option Options
  | 'e' => some { options with errorExit := on }
  | 'u' => some { options with noUnset := on }
  | 'x' => some { options with trace := on }
  | 'f' => some { options with noGlob := on }
  | 'n' => some { options with noExecution := on }
  | 'a' => some { options with exportAll := on }
  | c => if "bhimsvCEIV".toList.contains c then some options else none

/-- The letters of options that have a name. -/
def optionNames : List (String × Char) :=
  [("errexit", 'e'), ("nounset", 'u'), ("xtrace", 'x'), ("noglob", 'f'), ("noexec", 'n'),
    ("allexport", 'a'), ("verbose", 'v'), ("noclobber", 'C'), ("notify", 'b'), ("monitor", 'm')]

/-- Switches options up to the first word that is none; gives back the other words and
whether they take the place of the arguments.  `refuse` says what is wrong. -/
def switchAll (refuse : String → Action Unit) :
    Nat → List String → Action (List String × Bool)
  | 0, words => return (words, false)
  | _ + 1, [] => return ([], false)
  | fuel + 1, word :: rest =>
      match word.toList with
      | ['-', '-'] => return (rest, true)
      | ['-'] => return (rest, !rest.isEmpty)
      | ['-', 'o'] | ['+', 'o'] =>
          match rest with
          | [] => return ([], false)
          | option :: rest => do
              match optionNames.lookup option with
              | some letter => switchLetters (word.toList.head? = some '-') [letter]
              | none => refuse s!"Illegal option -o {option}"
              switchAll refuse fuel rest
      | '-' :: letters => do
          switchLetters true letters
          switchAll refuse fuel rest
      | '+' :: letters => do
          switchLetters false letters
          switchAll refuse fuel rest
      | _ => return (word :: rest, true)
where
  switchLetters (on : Bool) (letters : List Char) : Action Unit := do
    for letter in letters do
      match switch (← get).options on letter with
      | some options => modify fun state => { state with options }
      | none =>
          let sign := if on then '-' else '+'
          refuse s!"Illegal option {sign}{letter}"

def setOptions : List String → Action Unit
  | [] => listSettings "" fun setting => setting.value?.isSome
  | words => do
      let (arguments, replaces) ← switchAll (refuse "set") (words.length + 1) words
      if replaces then modify fun state => { state with arguments }
      settle true

def shift (words : List String) : Action Unit := do
  let n ← number "shift" words 1
  if (← get).arguments.length < n then refuse "shift" "can't shift that many"
  modify fun state => { state with arguments := state.arguments.drop n }
  settle true

/-- Leaves loops. -/
def leaveLoops (name : String) (halt : Nat → Halt) (words : List String) : Action Unit := do
  let n ← number name words 1
  if n = 0 then refuse name "Illegal number: 0"
  settle true
  let loops := (← get).loops
  if 0 < loops then throw (halt (min n loops))

def changeDirectory (words : List String) : Action Unit := do
  let state ← get
  let words := words.filter fun word => word ≠ "--" ∧ word ≠ "-L" ∧ word ≠ "-P"
  let back := words.head? = some "-"
  let target := match words.head? with
    | some "-" => (state.value? "OLDPWD").getD (Program.currentPath state.workspace)
    | some word => word
    | none => (state.value? "HOME").getD ""
  let found := do
    let target := if target.isEmpty then "." else target
    match ← state.workspace.find target with
    | .directory => state.workspace.locate target
    | .file _ => throw PathError.notDirectory
  match found with
  | .ok location => do
      let before := Program.currentPath state.workspace
      set { state with workspace := { state.workspace with current := location } }
      Action.assign "OLDPWD" before
      Action.assign "PWD" (Program.currentPath (← get).workspace)
      if back then write s!"{target}\n"
      settle true
  | .error error =>
      let (text, status) := state.dialect.directoryFault target error
      refuse "cd" text status

/-- The line at the front of what is left on a channel, and whether it has an end.
Unless `raw`, a backslash takes the meaning of the next character away. -/
def readLine (raw : Bool) : List UInt8 → List (UInt8 × Bool) × Bool × List UInt8
  | [] => ([], false, [])
  | [byte] => if byte = 10 then ([], true, []) else ([(byte, false)], false, [])
  | byte :: next :: rest =>
      if byte = 10 then ([], true, next :: rest)
      else if byte = 92 ∧ !raw then
        let (line, ended, left) := readLine raw rest
        (if next = 10 then line else (next, true) :: line, ended, left)
      else
        let (line, ended, left) := readLine raw (next :: rest)
        ((byte, false) :: line, ended, left)

/-- Cuts a line for so many variables; the last one takes what is left. -/
def cutLine (separators : List UInt8) : Nat → List (UInt8 × Bool) → List String
  | 0, _ => []
  | 1, line =>
      let text := (line.dropWhile isBlankSeparator).reverse.dropWhile isBlankSeparator
      [Text.decodeBytes (text.reverse.map (·.1))]
  | n + 2, line =>
      let line := line.dropWhile isBlankSeparator
      let field := line.takeWhile fun cell => !isSeparator cell
      let after := line.drop field.length
      let blanks := after.dropWhile isBlankSeparator
      let rest :=
        match blanks with
        | cell :: rest => if isSeparator cell then rest else blanks
        | [] => []
      Text.decodeBytes (field.map (·.1)) :: cutLine separators (n + 1) rest
where
  isSeparator (cell : UInt8 × Bool) : Bool := !cell.2 && separators.contains cell.1
  isBlankSeparator (cell : UInt8 × Bool) : Bool :=
    isSeparator cell && (cell.1 == 32 || cell.1 == 9 || cell.1 == 10)

/-- Reads a line into variables; at the end of what can be read it fails. -/
def read (words : List String) : Action Unit := do
  let raw := words.contains "-r"
  let names := dropOptions words
  if names.isEmpty then refuse "read" "arg count"
  else
    let state ← get
    let (line, ended, left) := readLine raw (state.unread 0)
    set (state.leave 0 left)
    let separators := Text.encodeText (String.ofList state.separators)
    for (name, value) in names.zip (cutLine separators names.length line) do
      if !isName name.toList then Action.fail s!"{name}: bad variable name"
      Action.assign name value
    settle ended
where
  dropOptions : List String → List String
    | "-p" :: _ :: rest => dropOptions rest
    | "-r" :: rest => dropOptions rest
    | "--" :: rest => rest
    | words => words

/-- Sets what is carried out at signals. -/
def setTraps (words : List String) : Action Unit := do
  match words.filter (· ≠ "--") with
  | [] =>
      for (signal, action) in (← get).traps.reverse do
        write s!"trap -- {quoted action} {signal}\n"
      settle true
  | action :: rest =>
      let resets := rest.isEmpty || action = "-" || (decimal? action).isSome
      let targets := if rest.isEmpty || (resets && action ≠ "-") then action :: rest else rest
      match targets.find? fun target => (signalName? target).isNone with
      | some target =>
          modify fun state => state.write 2 (Text.encodeText s!"trap: {target}: bad trap\n")
          settle false
      | none =>
          for signal in targets.filterMap signalName? do
            modify fun state =>
              let others := state.traps.filter (·.1 ≠ signal)
              { state with traps := if resets then others else (signal, action) :: others }
          settle true

/-- The commands that are known here, by their names. -/
def find? (name : String) : Option (List String → Action Unit) :=
  match name with
  | ":" | "true" => some fun _ => settle true
  | "false" => some fun _ => settle false
  | "echo" => some echo
  | "printf" => some print
  | "test" | "[" => some (test name)
  | "exit" => some fun words => do
      Action.setStatus (← number "exit" words (← get).status)
      throw .exit
  | "return" => some fun words => do
      Action.setStatus (← number "return" words (← get).status)
      throw .returned
  | "break" => some (leaveLoops "break" .broken)
  | "continue" => some (leaveLoops "continue" .continued)
  | "export" => some exportNames
  | "readonly" => some freezeNames
  | "local" => some localNames
  | "unset" => some forget
  | "set" => some setOptions
  | "shift" => some shift
  | "cd" => some changeDirectory
  | "pwd" => some fun _ => do
      write (Program.currentPath (← get).workspace ++ "\n")
      settle true
  | "read" => some read
  | "trap" => some setTraps
  | "umask" => some fun words => do
      if words.isEmpty then write "0022\n"
      settle true
  | "wait" => some fun words => Action.setStatus (if words.isEmpty then 0 else 127)
  | "times" | "hash" | "ulimit" | "alias" | "unalias" | "jobs" => some fun _ => settle true
  | _ => none

/-- The commands that carry out others. -/
def carriers : List String := ["eval", ".", "exec", "command", "kill", "type"]

def isKnown (name : String) : Bool := (find? name).isSome || carriers.contains name

end Builtin

end TaskScript.Shell
