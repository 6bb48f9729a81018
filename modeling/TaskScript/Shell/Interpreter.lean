/-
The programs at hand as interpreters of scripts: a program is called with the script as its
only argument.
-/
import TaskScript.Runner
import TaskScript.Shell.Run

namespace TaskScript.Shell

/-- The variables that every program is given. -/
def inherited : List (String × String) :=
  [("PATH", "/usr/local/sbin:/usr/local/bin:/usr/sbin:/usr/bin:/sbin:/bin"), ("HOME", "/root")]

/-- Names with values as a program finds them: a name ends at the first equals sign. -/
def asFound (settings : List (String × String)) : List (String × String) :=
  settings.map fun (name, value) =>
    let text := name.toList ++ '=' :: value.toList
    (String.ofList (text.takeWhile (· ≠ '=')), String.ofList ((text.dropWhile (· ≠ '=')).drop 1))

/-- Text that can be handed to a program holds no null character. -/
def canBeGiven (text : String) : Bool := !text.toList.contains '\x00'

/-- Calls an interpreter in the current directory of the workspace. -/
def interpret (workspace : Workspace) (interpreter script : String)
    (settings : List (String × String)) : Workspace × Runner.Report :=
  let state := State.surroundedBy { program := interpreter, workspace } settings
  let (state, ending) := call state interpreter [script]
  let exitCode :=
    match ending with
    | .exited code => some (code : Int)
    | .killed => none
  (state.workspace,
    { exitCode
      stdout := Text.decodeBytes (state.written 0), stderr := Text.decodeBytes (state.written 1) })

/-- Runs a script in a directory, which has to be there, with variables added to its
environment.  A search path among them is where the interpreter is looked for. -/
def runner (interpreter : String) : Runner := fun workspace script settings directory =>
  let texts := interpreter :: script :: settings.flatMap fun (name, value) => [name, value]
  let settings := asFound settings
  let settings := settings ++ inherited.filter fun (name, _) => (settings.lookup name).isNone
  match Program.find? (settings.lookup "PATH") interpreter, workspace.locate directory with
  | some _, .ok location =>
      if workspace.node? location = some .directory ∧ texts.all canBeGiven then
        let (left, report) :=
          interpret { workspace with current := location } interpreter script settings
        .ok ({ left with current := workspace.current }, report)
      else .error ⟨interpreter, script⟩
  | _, _ => .error ⟨interpreter, script⟩

end TaskScript.Shell
