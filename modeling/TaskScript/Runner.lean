/-
Running generated scripts.  What runs them is a parameter: it finds the files, may change
them, and reports how the run ended.
-/
import TaskScript.Files.Workspace

namespace TaskScript

namespace Runner

/-- What a finished run left behind; there is no exit code if it was killed. -/
structure Report where
  exitCode : Option Int
  stdout : String := ""
  stderr : String := ""
  deriving DecidableEq, Repr

def Report.success (report : Report) : Bool := report.exitCode = some 0

/-- How a run ended, as messages say it. -/
def Report.ending (report : Report) : String :=
  match report.exitCode with
  | some code => s!"Some({code})"
  | none => "None"

/-- The interpreter could not be started. -/
structure StartError where
  interpreter : String
  script : String
  deriving DecidableEq, Repr

def StartError.message (error : StartError) : String :=
  s!"failed to start '{error.interpreter}' for {error.script}"

end Runner

/-- Runs a script that is among the files, with variables added to its environment, in a
directory, and answers with the files that are left. -/
abbrev Runner :=
  (workspace : Workspace) → (script : String) → (settings : List (String × String)) →
    (directory : String) → Except Runner.StartError (Workspace × Runner.Report)

end TaskScript
