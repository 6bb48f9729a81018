/-
A batch of jobs: the scripts are written to one directory, and run if asked for.  A job
that fails leaves no script and does not keep the others from being done; all jobs draw
from one supply of names.
-/
import TaskScript.Files.Glob
import TaskScript.Job
import TaskScript.Runner
import TaskScript.Text.Blank
import TaskScript.Text.Escape

namespace TaskScript

/-- What is the same for every job of a batch. -/
structure BatchSettings where
  /-- Directory of the scripts. -/
  out : String := "scripts"
  plugins : PluginStore := {}
  /-- Whether each task's code is named in a comment. -/
  comments : Bool := false
  /-- What runs each script, if it is to be run. -/
  runner? : Option Runner := none

/-- Why one job failed. -/
inductive JobFailure where
  | unloaded (error : LoadError)
  | ungenerated (name : String) (error : JobError)
  | unwritten (target : String)
  | unstarted (error : Runner.StartError)
  | unsuccessful (target : String) (report : Runner.Report)
  deriving DecidableEq, Repr

def JobFailure.message : JobFailure → String
  | .unloaded error => error.message
  | .ungenerated name error => s!"failed to generate '{name}': {error.message}"
  | .unwritten target => s!"failed to write {target}"
  | .unstarted error => error.message
  | .unsuccessful target report =>
      let stderr := String.ofList (Text.trimEnd report.stderr.toList)
      s!"'{target}' exited with {report.ending}\n{stderr}"

/-- A batch while it is being done. -/
structure BatchState where
  workspace : Workspace
  session : Session := {}
  stdout : String := ""
  failures : List JobFailure := []
  deriving DecidableEq, Repr

namespace BatchSettings

/-- The file that the script of a job is written to. -/
def target (settings : BatchSettings) (job : Job) : String :=
  Path.join settings.out s!"{job.name}.py"

/-- Runs a script that was written, in the current directory. -/
def runScript (settings : BatchSettings) (state : BatchState) (target : String) :
    Except JobFailure BatchState :=
  match settings.runner? with
  | none => .ok state
  | some runner =>
      match runner state.workspace target [] "." with
      | .error error => .error (.unstarted error)
      | .ok (workspace, report) =>
          if report.success then
            .ok { state with workspace, stdout := state.stdout ++ report.stdout }
          else .error (.unsuccessful target report)

/-- Writes the script of a job that was loaded from `path`. -/
def writeScript (settings : BatchSettings) (state : BatchState) (path : String) (job : Job) :
    Except JobFailure String × BatchState :=
  let env : Environment := { acceptsPath := acceptsFilePath state.workspace.isDirectory }
  let (generated, session) :=
    job.generate (ModelDescription.load state.workspace) (Job.baseDirectory path) env
      settings.plugins settings.comments 0 state.session
  let state := { state with session }
  match generated with
  | .error error => (.error (.ungenerated job.name error), state)
  | .ok script =>
      let target := settings.target job
      match state.workspace.write? target (script ++ "\n") with
      | none => (.error (.unwritten target), state)
      | some workspace => (.ok target, { state with workspace })

/-- Does one job; a failure is noted in the state. -/
def processJob (settings : BatchSettings) (state : BatchState) (path : String) : BatchState :=
  match Job.load state.workspace path with
  | .error error => fail state (.unloaded error)
  | .ok job =>
      match settings.writeScript state path job with
      | (.error failure, state) => fail state failure
      | (.ok target, state) =>
          match settings.runScript state target with
          | .ok state => state
          | .error failure => fail state failure
where
  fail (state : BatchState) (failure : JobFailure) : BatchState :=
    { state with failures := state.failures ++ [failure] }

/-- Does the jobs one after another. -/
def processJobs (settings : BatchSettings) (workspace : Workspace) (paths : List String) :
    BatchState :=
  paths.foldl settings.processJob { workspace }

end BatchSettings

/-- Why a batch failed as a whole. -/
inductive BatchError where
  | invalidPattern (pattern : String)
  | noJobs (patterns : List String)
  | invalidPluginPattern (error : Glob.PatternError)
  | namelessPlugin
  | unreadablePlugin (path : String)
  | uncreated (directory : String)
  | failedJobs (failed total : Nat)
  deriving DecidableEq, Repr

def BatchError.message : BatchError → String
  | .invalidPattern pattern => s!"invalid pattern '{pattern}'"
  | .noJobs patterns =>
      "no job files matched [" ++ ", ".intercalate (patterns.map Text.display) ++ "]"
  | .invalidPluginPattern error => error.message
  | .namelessPlugin => "plugin without a name"
  | .unreadablePlugin path => s!"failed to read plugin {path}"
  | .uncreated directory => s!"failed to create {directory}"
  | .failedJobs failed total => s!"{failed} of {total} job(s) failed"

namespace Batch

/-- Puts paths in order, paths with the same steps once, as the first of them is
written. -/
def distinctPaths (paths : List String) : List String :=
  dropRepeats (paths.mergeSort fun a b => Path.compare a b != .gt)
where
  /-- Keeps the first path of each run of equal ones. -/
  dropRepeats : List String → List String
    | [] => []
    | path :: rest =>
        path :: (dropRepeats rest).dropWhile fun next => Path.compare path next == .eq

/-- The files that the patterns stand for. -/
def jobFiles (workspace : Workspace) (patterns : List String) :
    Except BatchError (List String) := do
  let found ← patterns.mapM fun pattern =>
    (Glob.glob workspace pattern).mapError fun _ => .invalidPattern pattern
  match distinctPaths found.flatten with
  | [] => .error (.noJobs patterns)
  | paths => .ok paths

def readPlugin (workspace : Workspace) (path : String) : Except BatchError Plugin :=
  match Path.stem? path, workspace.read? path with
  | none, _ => .error .namelessPlugin
  | some _, none => .error (.unreadablePlugin path)
  | some name, some contents => .ok { name, contents }

/-- The plugins in a directory, each under the stem of its file name. -/
def loadPlugins (workspace : Workspace) (directory : String) : Except BatchError PluginStore := do
  let paths ← (Glob.glob workspace (Path.join directory "*.py")).mapError .invalidPluginPattern
  return PluginStore.ofList (← paths.mapM (readPlugin workspace))

end Batch

end TaskScript
