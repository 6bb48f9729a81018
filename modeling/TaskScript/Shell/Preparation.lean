/-
What comes before a command and after it: its words are expanded, it is shown, variables
are set for it alone, and a failure may end the script.
-/
import TaskScript.Shell.Builtin
import TaskScript.Shell.Redirect

namespace TaskScript.Shell

/-- Ends the shell if a failure is not looked at. -/
def checkFailure (tested : Bool) : Action Unit := do
  let state ← get
  if state.options.errorExit && !tested && state.status ≠ 0 then throw .exit

/-- Carries out an action with variables that are set for it alone and exported. -/
def withSettings (settings : List (String × String)) (action : Action Unit) : Action Unit := do
  let before ← get
  let saved := settings.map fun (name, _) => (name, before.settings.lookup name)
  for (name, value) in settings do
    Action.assign name value
    modify fun state => state.update name fun setting => { setting with exported := true }
  let restore : Action Unit := modify fun state =>
    saved.foldl (fun state (name, setting?) =>
      match setting? with
      | some setting => state.update name fun _ => setting
      | none => { state with settings := state.settings.filter (·.1 ≠ name) }) state
  tryCatch action fun halt => do
    restore
    throw halt
  restore

/-- What a command name is, if it is anything. -/
def describe? (state : State) (name : String) : Option (String × String) :=
  if fixedCommands.contains name then some (name, "a special shell builtin")
  else if (state.functions.lookup name).isSome then some (name, "a shell function")
  else if reservedWords.contains name then some (name, "a shell keyword")
  else if Builtin.isKnown name then some (name, "a shell builtin")
  else
    (Program.find? (state.value? "PATH") name).map fun (path, _) => (path, path)

/-- Says what each name is. -/
def describeAll (names : List String) : Action Unit := do
  let state ← get
  for name in names do
    match describe? state name with
    | some (_, text) => Builtin.write s!"{name} is {text}\n"
    | none => do
        Builtin.write s!"{name}: not found\n"
        Action.setStatus 127

/-- Carries out an action, the complaints about whose commands begin with a text. -/
def inContext (context : String) (action : Action Unit) : Action Unit := do
  let before := (← get).context
  modify fun state => { state with context }
  tryCatch action fun halt => do
    modify fun state => { state with context := before }
    throw halt
  modify fun state => { state with context := before }

/-- Says what cannot be carried out and why. -/
def refuseCommand (name : String) : Action Unit := do
  let state ← get
  let (text, status) := state.dialect.commandFault state.workspace name
  Action.complain text
  Action.setStatus status

/-- Shows a command before it is carried out. -/
def trace (settings : List (String × String)) (words : List String) : Action Unit := do
  if (← get).options.trace then
    let shown := (settings.map fun (name, value) => s!"{name}={value}") ++ words
    let lead := ((← get).value? "PS4").getD "+ "
    modify fun state => state.write 2 (Text.encodeText (lead ++ " ".intercalate shown ++ "\n"))

/-- Expands the values of assignments. -/
def expandSettings (substitute : Substitute) :
    List (String × Word) → Action (List (String × String))
  | [] => return []
  | (name, value) :: rest => do
      let text ← expandWhole substitute value
      return (name, text) :: (← expandSettings substitute rest)

/-- Commands whose arguments may be assignments, the values of which are not split. -/
def assigningCommands : List String := ["export", "readonly", "local"]

/-- Expands the words of a command. -/
def expandCommand (substitute : Substitute) (words : List Word) : Action (List String) := do
  match words with
  | [] => return []
  | first :: rest =>
      let name ← expandWord substitute first
      if name.head?.any assigningCommands.contains then
        let mut expanded := name
        for word in rest do
          if word.assignment?.isSome then expanded := expanded ++ [← expandWhole substitute word]
          else expanded := expanded ++ (← expandWord substitute word)
        return expanded
      else return name ++ (← expandWords substitute rest)

/-- How a program finds things that is called now. -/
def callOf (state : State) (name : String) (arguments : List String) : Call :=
  { name, arguments, workspace := state.workspace, surroundings := state.surroundings
    input := state.unread 0 }

/-- Takes over what a program leaves behind. -/
def absorb (effect : Effect) : Action Unit := modify fun state =>
  let state := { state with workspace := effect.workspace, status := effect.status }
  ((state.leave 0 effect.input).write 1 effect.out).write 2 effect.err

end TaskScript.Shell
