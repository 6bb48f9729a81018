/-
What a job comes to once its model is loaded and its plugins are found: a plan that lacks nothing,
whose tasks check what the job demands.  There is a script unless some demand is not met.
-/
import TaskScript.Job
import TaskScript.Proofs.Job.Inference
import TaskScript.Proofs.Job.Retrain

namespace TaskScript

namespace Job

variable {job : Job} {base : String} {env : Environment} {model : ModelDescription}
  {plugins : PluginStore} {meanwhile : Nat} {session : Session} {plan : Plan}

section Resolve

variable {call : Option PluginCall} {function : Option PluginFunction}

theorem exists_resolve (hfound : ∀ wanted ∈ call, (plugins.get? wanted.plugin).isSome) :
    ∃ function, resolve plugins call = .ok function := by
  cases call with
  | none => exact ⟨none, rfl⟩
  | some wanted =>
      obtain ⟨plugin, hplugin⟩ := Option.isSome_iff_exists.mp (hfound wanted rfl)
      exact ⟨some (plugin, wanted.function), by rw [resolve, hplugin]⟩

theorem map_snd_of_resolve (hresolve : resolve plugins call = .ok function) :
    function.map Prod.snd = call.map PluginCall.function := by
  cases call with
  | none =>
      obtain rfl := Except.ok.inj hresolve
      rfl
  | some wanted =>
      rw [resolve] at hresolve
      split at hresolve
      · obtain rfl := Except.ok.inj hresolve
        rfl
      · cases hresolve

end Resolve

/-- The plugins that the job calls are there. -/
def Supplied (plugins : PluginStore) : Job → Prop
  | inference job => ∀ call, job.preprocess = some call ∨ job.postprocess = some call →
      (plugins.get? call.plugin).isSome
  | retrain _ => True

/-- What has to hold for a script, task by task. -/
def demands (env : Environment) (base : String) (model : ModelDescription) : Job → List Demand
  | inference job =>
      InferenceJob.demands env model (Path.join base job.image)
        (job.preprocess.map PluginCall.function) (job.postprocess.map PluginCall.function)
  | retrain job =>
      RetrainJob.demands env job model (Path.join base job.saveTo)
        (job.training.checkpoint.map (Path.join base))

theorem exists_plan (hsupplied : job.Supplied plugins) (draft : Draft) :
    ∃ plan, job.plan base model plugins meanwhile draft = .ok plan := by
  cases job with
  | inference job =>
      obtain ⟨preprocess, hpreprocess⟩ := exists_resolve fun call h => hsupplied call (.inl h)
      obtain ⟨postprocess, hpostprocess⟩ := exists_resolve fun call h => hsupplied call (.inr h)
      rw [Job.plan, block, hpreprocess, hpostprocess]
      exact ⟨_, rfl⟩
  | retrain job => exact ⟨_, rfl⟩

/-- Once the plugins are found the plan is that of the block. -/
theorem plan_inference {job : InferenceJob} {preprocess postprocess : Option PluginFunction}
    (hpreprocess : resolve plugins job.preprocess = .ok preprocess)
    (hpostprocess : resolve plugins job.postprocess = .ok postprocess) (session : Session) :
    (inference job).plan base model plugins meanwhile (session.start env).1 =
      .ok { InferenceJob.drafted env session.nextOwner session.names.next
        (session.names.next + 1 + meanwhile) model (Path.join base job.image) preprocess
          postprocess with } := by
  have hruns := InferenceJob.runs_block env session.nextOwner session.names.next model
    (Path.join base job.image) preprocess postprocess meanwhile
  rw [Job.plan, block, hpreprocess, hpostprocess]
  exact congrArg Except.ok hruns.configure

theorem plan_retrain (job : RetrainJob) (session : Session) :
    (retrain job).plan base model plugins meanwhile (session.start env).1 =
      .ok { RetrainJob.drafted env session.nextOwner job model (Path.join base job.saveTo)
        (job.training.checkpoint.map (Path.join base)) session.names with } :=
  congrArg Except.ok (RetrainJob.runs_block ..).configure

/-- Whatever the rules are, the plan of a job lacks nothing. -/
theorem outlined_of_plan
    (hplan : job.plan base model plugins meanwhile (session.start env).1 = .ok plan) :
    plan.Outlined env (job.demands env base model) := by
  cases job with
  | inference job =>
      rcases hpreprocess : resolve plugins job.preprocess with error | preprocess
      · rw [Job.plan, block, hpreprocess] at hplan
        cases hplan
      rcases hpostprocess : resolve plugins job.postprocess with error | postprocess
      · rw [Job.plan, block, hpreprocess, hpostprocess] at hplan
        cases hplan
      rw [plan_inference hpreprocess hpostprocess] at hplan
      obtain rfl := Except.ok.inj hplan
      rw [demands, ← map_snd_of_resolve hpreprocess, ← map_snd_of_resolve hpostprocess]
      exact InferenceJob.outlined ..
  | retrain job =>
      rw [plan_retrain] at hplan
      obtain rfl := Except.ok.inj hplan
      exact RetrainJob.outlined ..

variable {loader : ModelLoader} {comments : Bool} {text : String}

/-- The script is that of the plan. -/
theorem generate_eq_of_plan
    (hmodel : loader (Path.join base job.model) = .ok model)
    (hplan : job.plan base model plugins meanwhile (session.start env).1 = .ok plan) :
    (job.generate loader base env plugins comments meanwhile session).1 =
      (plan.text comments).mapError .generation := by
  unfold generate
  rw [hmodel]
  dsimp only
  rw [hplan]

theorem exists_plan_of_generate
    (htext : (job.generate loader base env plugins comments meanwhile session).1 = .ok text) :
    ∃ model plan, loader (Path.join base job.model) = .ok model ∧
      job.plan base model plugins meanwhile (session.start env).1 = .ok plan ∧
      plan.text comments = .ok text := by
  unfold generate at htext
  split at htext
  · cases htext
  · rename_i model hmodel
    dsimp only at htext
    split at htext
    · cases htext
    · rename_i plan hplan
      refine ⟨model, plan, hmodel, hplan, ?_⟩
      rcases hanswer : plan.text comments with problems | shown
      · rw [hanswer] at htext
        cases htext
      · rw [hanswer] at htext
        exact congrArg Except.ok (Except.ok.inj htext)

section Default

variable {acceptsPath : String → Bool}
  (hmodel : loader (Path.join base job.model) = .ok model)
  (hplan : job.plan base model plugins meanwhile (session.start { acceptsPath }).1 = .ok plan)

include hmodel hplan

/-- With the default rules for names and imports there is a script if all demands are met. -/
theorem generate_eq_ok (comments : Bool)
    (hmet : ∀ demand ∈ job.demands { acceptsPath } base model, demand.met = true) :
    (job.generate loader base { acceptsPath } plugins comments meanwhile session).1 =
      .ok ((Script.ofTasks plan.tasks.items).text comments) := by
  have houtlined := outlined_of_plan hplan
  rw [generate_eq_of_plan hmodel hplan, houtlined.text_eq_ok rfl rfl comments hmet]
  rfl

/-- Else each demand that is not met is reported, and nothing besides. -/
theorem generate_eq_error (comments : Bool) {demand : Demand}
    (hdemand : demand ∈ job.demands { acceptsPath } base model) (hunmet : demand.met = false) :
    ∃ problems, (job.generate loader base { acceptsPath } plugins comments meanwhile session).1 =
        .error (.generation problems) ∧
      problems.toList =
        ((job.demands { acceptsPath } base model).filter (!·.met)).map Demand.problem := by
  have houtlined := outlined_of_plan hplan
  obtain ⟨problems, herror, hlist⟩ := houtlined.text_eq_error rfl rfl hdemand hunmet comments
  refine ⟨problems, ?_, hlist⟩
  rw [generate_eq_of_plan hmodel hplan, herror]
  rfl

end Default

end Job

end TaskScript
