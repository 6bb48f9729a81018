/-
From a job to its script: the description of its model is loaded, the plugins it calls
are looked up, and its block is run on a fresh draft.
-/
import TaskScript.Job.Block
import TaskScript.Job.Stored
import TaskScript.Model
import TaskScript.Plan

namespace TaskScript

/-- Why there is no script for a job. -/
inductive JobError where
  | loading (error : LoadError)
  | unknownPlugin (name : String)
  | generation (problems : Problems)
  deriving DecidableEq, Repr

def JobError.message : JobError → String
  | .loading error => error.message
  | .unknownPlugin name => s!"unknown plugin '{name}'"
  | .generation problems => problems.report

namespace Job

/-- The directory that the paths in a job file are relative to. -/
def baseDirectory (path : String) : String := (Path.parent? path).getD "."

def load (workspace : Workspace) (path : String) : Except LoadError Job :=
  readRecord workspace "job" ofJson? path

/-- Finds the plugin of a call, if there is a call. -/
def resolve (plugins : PluginStore) : Option PluginCall → Except JobError (Option PluginFunction)
  | none => .ok none
  | some call =>
      match plugins.get? call.plugin with
      | some plugin => .ok (some (plugin, call.function))
      | none => .error (.unknownPlugin call.plugin)

/-- The configuration of a job's script.  Paths are relative to `base`, the directory of
the job; `meanwhile` names are drawn for other scripts in between. -/
def block (job : Job) (base : String) (model : ModelDescription) (plugins : PluginStore)
    (meanwhile : Nat) : Except JobError (Block Unit) :=
  match job with
  | inference job => do
      let preprocess ← resolve plugins job.preprocess
      let postprocess ← resolve plugins job.postprocess
      return InferenceJob.block model (Path.join base job.image) preprocess postprocess meanwhile
  | retrain job =>
      return job.block model (Path.join base job.saveTo)
        (job.training.checkpoint.map (Path.join base))

/-- The script of a job, for a model that is loaded, and the names drawn for it. -/
def plan (job : Job) (base : String) (model : ModelDescription) (plugins : PluginStore)
    (meanwhile : Nat) (draft : Draft) : Except JobError Plan :=
  (job.block base model plugins meanwhile).map draft.configure

/-- Loads the model of a job and makes the script.  The session goes on with the names
that are left. -/
def generate (job : Job) (loader : ModelLoader) (base : String) (env : Environment)
    (plugins : PluginStore) (comments : Bool) (meanwhile : Nat) (session : Session) :
    Except JobError String × Session :=
  match loader (Path.join base job.model) with
  | .error error => (.error (.loading error), session)
  | .ok model =>
      let (draft, session) := session.start env
      match job.plan base model plugins meanwhile draft with
      | .error error => (.error error, session)
      | .ok plan => ((plan.text comments).mapError .generation, session.finish plan.toDraft)

end Job

end TaskScript
