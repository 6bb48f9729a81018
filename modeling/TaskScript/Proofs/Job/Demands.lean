/-
Which jobs there is a script for.  With the default rules for names and imports it depends on the
paths, the names of the called functions, the layers and the number of epochs alone, and a report
names the tasks at fault and nothing else.
-/
import TaskScript.Proofs.Job.Outcome

namespace TaskScript.Job

section Acceptable

variable (acceptsPath : String → Bool) (base : String) (model : ModelDescription)

/-- The paths are accepted, functions are called by identifiers, there is an epoch at least, and
a layer is one of the model or can be built. -/
def Acceptable : Job → Prop
  | inference job =>
      acceptsPath model.path = true ∧ acceptsPath (Path.join base job.image) = true ∧
        ∀ call, job.preprocess = some call ∨ job.postprocess = some call →
          Text.isIdentifier call.function = true
  | retrain job =>
      acceptsPath model.path = true ∧
        (∀ layer ∈ job.layers,
          (∃ known ∈ model.layers, known.name = layer.name) ∨ layer.constructor?.isSome = true) ∧
        (∀ path, job.training.checkpoint = some path → acceptsPath (Path.join base path) = true) ∧
        0 < job.training.epochs ∧ acceptsPath (Path.join base job.saveTo) = true

variable {acceptsPath base model}

theorem forall_met_toList_iff {α : Type} {given : Option α} {demand : α → Demand} :
    (∀ asked ∈ (given.map demand).toList, asked.met = true) ↔
      ∀ value, given = some value → (demand value).met = true := by
  cases given <;> simp

theorem forall_met_iff {job : Job} :
    (∀ demand ∈ job.demands { acceptsPath } base model, demand.met = true) ↔
      job.Acceptable acceptsPath base model := by
  cases job with
  | inference job =>
      simp only [demands, InferenceJob.demands, Option.map_map, List.forall_mem_append,
        List.forall_mem_cons, forall_met_toList_iff, Function.comp_apply, Acceptable, or_imp,
        forall_and, and_assoc]
      simp
  | retrain job =>
      simp only [demands, RetrainJob.demands, Option.map_map, List.forall_mem_append,
        List.forall_mem_cons, forall_met_toList_iff, Function.comp_apply, Acceptable, and_assoc]
      simp

/-- No task is reported twice. -/
theorem nodup_demands (env : Environment) (job : Job) :
    ((job.demands env base model).map Demand.task).Nodup := by
  cases job with
  | inference job =>
      obtain ⟨name, stored, image, preprocess, postprocess⟩ := job
      cases preprocess <;> cases postprocess <;> simp [demands, InferenceJob.demands]
  | retrain job =>
      simp only [demands, RetrainJob.demands]
      cases job.training.checkpoint <;> simp 

end Acceptable

/-- Once the model of a job is loaded and the plugins it calls are found, there is a script if and
only if the job is acceptable; otherwise the report holds one problem for each task whose demand
is not met and no other problem. -/
theorem generate_exact {job : Job} {loader : ModelLoader} {base : String}
    {model : ModelDescription} {plugins : PluginStore}
    (hmodel : loader (Path.join base job.model) = .ok model)
    (hsupplied : job.Supplied plugins) (acceptsPath : String → Bool) (comments : Bool)
    (meanwhile : Nat) (session : Session) :
    let answer := (job.generate loader base { acceptsPath } plugins comments meanwhile session).1
    let demands := job.demands { acceptsPath } base model
    ((∃ text, answer = .ok text) ↔ job.Acceptable acceptsPath base model) ∧
      (¬ job.Acceptable acceptsPath base model →
        ∃ problems, answer = .error (.generation problems) ∧
          problems.toList = (demands.filter (!·.met)).map fun demand =>
            .invalidTask demand.kind demand.task) ∧
      (demands.map Demand.task).Nodup := by
  intro answer demands
  obtain ⟨plan, hplan⟩ := exists_plan hsupplied (session.start { acceptsPath }).1
  have hok : job.Acceptable acceptsPath base model → ∃ text, answer = .ok text := by
    intro hacceptable
    exact ⟨_, generate_eq_ok hmodel hplan comments (forall_met_iff.mpr hacceptable)⟩
  have herror : ¬ job.Acceptable acceptsPath base model →
      ∃ problems, answer = .error (.generation problems) ∧
        problems.toList = (demands.filter (!·.met)).map fun demand =>
          .invalidTask demand.kind demand.task := by
    intro hnot
    rw [← forall_met_iff] at hnot
    push Not at hnot
    obtain ⟨demand, hdemand, hunmet⟩ := hnot
    exact generate_eq_error hmodel hplan comments hdemand ((Bool.not_eq_true _).mp hunmet)
  refine ⟨⟨?_, hok⟩, herror, nodup_demands _ job⟩
  rintro ⟨text, htext⟩
  by_contra hnot
  obtain ⟨problems, hproblems, _⟩ := herror hnot
  rw [htext] at hproblems
  cases hproblems

/-- A model is asked for a layer that it lacks, and is not trained at all. -/
def hopeless : Job :=
  .retrain
    { name := "hopeless"
      model := "m.json"
      layers := [{ name := "top" }, { name := "new" }]
      dataset := .mnist
      training := { epochs := 0 }
      saveTo := "n.h5" }

/-- The current directory holds the description of a model with one layer. -/
def stock : Workspace where
  current := []
  nodes :=
    [(["m.json"],
      .file "\x7b\"name\": \"m\", \"path\": \"/m\", \"layers\": [\x7b\"name\": \"top\"\x7d]\x7d")]

theorem generate_exact_hopeless :
    ∃ problems,
      (hopeless.generate (ModelDescription.load stock) "." { acceptsPath := fun _ => true } {}
        false 0 {}).1 =
        .error (.generation problems) ∧
      problems.toList =
        [.invalidTask .applyLayerDelta "apply_layers", .invalidTask .train "train"] := by
  have hmodel : ModelDescription.load stock (Path.join "." hopeless.model) =
      .ok { name := "m", path := "/m", layers := [{ name := "top" }] } := by decide +kernel
  have hnot : ¬ hopeless.Acceptable (fun _ => true) "."
      { name := "m", path := "/m", layers := [{ name := "top" }] } := by
    rintro ⟨_, _, _, hepochs, _⟩
    cases hepochs
  obtain ⟨_, hfails, _⟩ := generate_exact hmodel trivial (fun _ => true) false 0 {}
  exact hfails hnot

end TaskScript.Job
