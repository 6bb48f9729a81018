/-
The program as a function: from its arguments and the files it finds to its exit code,
its output and the files it leaves.  What runs scripts is given for each interpreter.
-/
import TaskScript.Batch
import TaskScript.CommandLine.Arguments

namespace TaskScript.CommandLine

def versionText : String := "scriptgen 0.1.0\n"

def helpLines : List String :=
  ["Generate Python scripts from declarative job files",
    "",
    "Usage: scriptgen [OPTIONS] <JOBS>...",
    "",
    "Arguments:",
    "  <JOBS>...  Job files or glob patterns, e.g. `jobs/*.json`",
    "",
    "Options:",
    "  -o, --out <OUT>          Directory the generated scripts are written to [default: scripts]",
    "  -p, --plugins <PLUGINS>  Directory of `*.py` plugins, each named after its file stem",
    "      --debug-comments     Prefix each task's code with a comment naming it",
    "      --run                Run each script after generating it",
    "      --python <PYTHON>    Interpreter used by `--run` [default: python3]",
    "  -v, --verbose...         Log more, repeat for even more",
    "  -h, --help               Print help",
    "  -V, --version            Print version"]

def helpText : String := "\n".intercalate helpLines ++ "\n"

/-- What a call of the program comes to. -/
structure Outcome where
  workspace : Workspace
  exitCode : Nat := 0
  stdout : String := ""
  /-- Why the call failed, if it did; arguments that cannot be read are told apart by
  the exit code. -/
  error? : Option String := none
  /-- Why jobs failed. -/
  failures : List JobFailure := []
  deriving DecidableEq, Repr

/-- Reads the plugins and makes the directory of the scripts. -/
def prepare (runners : String → Runner) (workspace : Workspace) (arguments : Arguments) :
    Except BatchError (BatchSettings × Workspace) := do
  let plugins ← match arguments.plugins? with
    | none => pure {}
    | some directory => Batch.loadPlugins workspace directory
  match workspace.makeDirectories arguments.out with
  | .error _ => .error (.uncreated arguments.out)
  | .ok workspace =>
      let runner? := if arguments.run then some (runners arguments.interpreter) else none
      return ({ out := arguments.out, plugins, comments := arguments.comments, runner? }, workspace)

/-- Does the jobs in the order given.  The call fails when one of them does. -/
def perform (settings : BatchSettings) (workspace : Workspace) (paths : List String) : Outcome :=
  let state := settings.processJobs workspace paths
  let outcome : Outcome :=
    { workspace := state.workspace, stdout := state.stdout, failures := state.failures }
  if state.failures.isEmpty then outcome
  else
    let error : BatchError := .failedJobs state.failures.length paths.length
    { outcome with exitCode := 1, error? := some error.message }

/-- Finds the job files, prepares and does the jobs.  Nothing is written if that is not
reached. -/
def generate (runners : String → Runner) (workspace : Workspace) (arguments : Arguments) :
    Outcome :=
  let prepared := do
    let paths ← Batch.jobFiles workspace arguments.jobs
    return (paths, ← prepare runners workspace arguments)
  match prepared with
  | .error error => { workspace, exitCode := 1, error? := some error.message }
  | .ok (paths, settings, workspace) => perform settings workspace paths

/-- A call of the program; arguments that cannot be read give exit code 2. -/
def run (runners : String → Runner) (arguments : List String) (workspace : Workspace) : Outcome :=
  match Request.parse arguments with
  | .error _ => { workspace, exitCode := 2 }
  | .ok .help => { workspace, stdout := helpText }
  | .ok .version => { workspace, stdout := versionText }
  | .ok (.generate arguments) => generate runners workspace arguments

end TaskScript.CommandLine
