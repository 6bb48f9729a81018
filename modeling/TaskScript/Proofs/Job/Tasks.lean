/-
The tasks of jobs as they are once they are configured.  Each of them has all its fields, and
what it reads and assigns is known.
-/
import TaskScript.Job.Block
import TaskScript.Proofs.Draft.Steps
import TaskScript.Proofs.Plan.Prepared

namespace TaskScript

/-- Some of the tasks assigns the variable. -/
def Assigned (tasks : List Task) (slot : Variable) : Prop := ∃ task ∈ tasks, task.Assigns slot

/-- A built-in task with all its fields assigned, which reads and assigns these variables and
holds no others. -/
structure Task.Settled (reads assigns : List Variable) (task : Task) : Prop where
  builtIn : task.body.isBuiltIn = true
  written : task.body ≠ .empty
  waiting : task.body.waiting = []
  named : ∀ slot ∈ task.body.named, slot ∈ reads ∨ slot ∈ assigns
  inputs : ∃ set, task.body.inputs = .ok set ∧ ∀ slot ∈ set, slot ∈ reads
  outputs : ∃ set, task.body.outputs = .ok set ∧ ∀ slot ∈ assigns, slot ∈ set

namespace Task.Settled

variable {reads assigns slots : List Variable} {before : List Task} {task : Task}
  (hsettled : task.Settled reads assigns)

include hsettled

theorem complete (hslots : ∀ slot ∈ reads ++ assigns, slot ∈ slots) : task.Complete slots where
  builtIn := hsettled.builtIn
  written := hsettled.written
  waiting := hsettled.waiting
  named slot hslot := hslots slot (List.mem_append.mpr (hsettled.named slot hslot))

theorem assigned (htask : task ∈ before) {slot : Variable} (hslot : slot ∈ assigns) :
    Assigned before slot := by
  obtain ⟨set, hset, hmem⟩ := hsettled.outputs
  exact ⟨task, htask, set, hset, hmem slot hslot⟩

/-- The task needs nothing but what was there before when this holds of its dependencies and of
what it reads. -/
theorem follows {owner : Nat} (ids : List TaskId)
    (hdependencies : task.dependencies = AscendingSet.extend ∅ ids)
    (hids : ∀ id ∈ ids, id.owner = owner ∧ id.index < before.length)
    (hreads : ∀ slot ∈ reads, Assigned before slot) : task.Follows owner before where
  dependencies id hid := by
    rw [hdependencies] at hid
    exact hids id ((AscendingSet.mem_extend_imp hid).resolve_left (AscendingSet.notMem_empty id))
  inputs := by
    obtain ⟨set, hset, hmem⟩ := hsettled.inputs
    exact ⟨set, hset, fun slot hslot => hreads slot (hmem slot hslot)⟩
  named slot hslot := by
    obtain ⟨set, hset, hmem⟩ := hsettled.outputs
    rcases hsettled.named slot hslot with hread | hassign
    · exact .inr (hreads slot hread)
    · exact .inl ⟨set, hset, hmem slot hassign⟩

end Task.Settled

/-- A draft is prepared when its tasks are, the first of them is marked for the beginning, if any
is, and the last one for the end. -/
theorem Plan.prepared_of_items {draft : Draft} {owner : Nat} {slots : List Variable}
    {items : List Task} (hdeclared : draft.declared = .ofItems slots)
    (htasks : draft.tasks = .ofItems owner items) (hfed : Fed owner [] items)
    (hcomplete : ∀ task ∈ items, task.Complete slots)
    (hpregeneration : ∀ id, draft.pregenerationLast = some id → id = ⟨owner, 0⟩ ∧ items ≠ [])
    (hlast : ∀ id, draft.last = some id → id.owner = owner ∧ id.index + 1 = items.length)
    (hrequired : ∀ wanted ∈ draft.required.items, Assigned items wanted) :
    Plan.Prepared { draft with } := by
  obtain ⟨env, names, declared, tasks, pregenerationLast, last, required⟩ := draft
  dsimp only at *
  subst hdeclared htasks
  have hsize : (TaskList.ofItems owner items).size = items.length := TaskList.size_ofItems ..
  have hitems : (TaskList.ofItems owner items).items = items := TaskList.items_ofItems ..
  have hslots : (Registry.ofItems slots).items = slots := Registry.items_ofItems slots
  refine ⟨⟨?_, ?_, ?_⟩, rfl, ?_, ?_⟩
  · exact hitems.symm ▸ hfed
  · intro id hid
    obtain ⟨rfl, hne⟩ := hpregeneration id hid
    exact ⟨⟨0, hsize ▸ List.length_pos_iff.mpr hne⟩, rfl, rfl⟩
  · intro id hid
    obtain ⟨howner, hindex⟩ := hlast id hid
    have hid' : id = ⟨owner, id.index⟩ := howner ▸ rfl
    exact ⟨⟨id.index, hsize ▸ by omega⟩, hid', hsize ▸ hindex⟩
  · exact hitems.symm ▸ hslots.symm ▸ hcomplete
  · exact hitems.symm ▸ hrequired

theorem Plan.outlined_of_items {draft : Draft} {owner : Nat} {names : List String}
    {items : List Task} {demands : List Demand} (hprepared : Plan.Prepared { draft with })
    (hdeclared : draft.declared = .ofItems (names.map draft.env.variableNamed))
    (htasks : draft.tasks = .ofItems owner items)
    (hnames : ∀ name ∈ names, Text.isIdentifier name = true)
    (hchecks : Checks draft.env items demands) :
    Plan.Outlined draft.env demands { draft with } := by
  have hslots : draft.declared.items = names.map draft.env.variableNamed := by
    rw [hdeclared, Registry.items_ofItems]
  have hitems : draft.tasks.items = items := by rw [htasks, TaskList.items_ofItems]
  refine ⟨hprepared, rfl, fun slot hslot => ?_, hitems.symm ▸ hchecks⟩
  obtain ⟨name, hname, rfl⟩ := List.mem_map.mp (hslots ▸ hslot)
  exact ⟨name, hnames name hname, rfl⟩

namespace Job

def eagerTask (name : String) : Task where
  body := .enableEagerExecution
  name

def loadModelTask (path : String) (model : Variable) : Task where
  body := .loadModel { modelPath := ⟨some path⟩, modelOutput := ⟨some model⟩ }
  name := "load_model"

def loadImageTask (path : String) (image : Variable) : Task where
  body := .loadImage { imagePath := ⟨some path⟩, imageOutput := ⟨some image⟩ }
  name := "load_image"

/-- Calls a function of a plugin. -/
def callTask (name : String) (call : PluginFunction) (arguments results : List Variable)
    (after : TaskId) : Task where
  body := .runPlugin
    { functionName := ⟨some call.2⟩
      functionDefinition := ⟨some call.1.contents⟩
      functionInputs := ⟨some arguments⟩
      functionOutputs := ⟨some results⟩ }
  dependencies := AscendingSet.extend ∅ [after]
  name

def inferTask (model input prediction : Variable) (after : List TaskId) : Task where
  body := .runInference
    { model := ⟨some model⟩, input := ⟨some input⟩, output := ⟨some prediction⟩ }
  dependencies := AscendingSet.extend ∅ after
  name := "infer"

def applyLayersTask (current new : List Layer) (base model : Variable) (after : TaskId) : Task where
  body := .applyLayerDelta
    { modelInput := ⟨some base⟩
      currentLayers := ⟨some current⟩
      newLayers := ⟨some new⟩
      newModelOutput := ⟨some model⟩ }
  dependencies := AscendingSet.extend ∅ [after]
  name := "apply_layers"

def compileTask (training : TrainingPlan) (model : Variable) (after : TaskId) : Task where
  body := .compileModel
    { modelInput := ⟨some model⟩
      optimizer := ⟨some training.optimizer⟩
      loss := ⟨some training.loss⟩
      metrics := training.metrics }
  dependencies := AscendingSet.extend ∅ [after]
  name := "compile"

def loadDatasetTask (dataset : Dataset) (xTrain yTrain xTest yTest : Variable) : Task where
  body := .loadExampleDataset
    { dataset := ⟨some dataset⟩
      xTrainOutput := ⟨some xTrain⟩
      yTrainOutput := ⟨some yTrain⟩
      xTestOutput := ⟨some xTest⟩
      yTestOutput := ⟨some yTest⟩ }
  name := "load_dataset"

def checkpointTask (path : String) (callback : Variable) : Task where
  body := .checkpointCallback { filePath := ⟨some path⟩, output := ⟨some callback⟩ }
  name := "checkpoint"

def trainTask (training : TrainingPlan) (model xTrain yTrain xTest yTest : Variable)
    (callbacks : List Variable) (after : List TaskId) : Task where
  body := .train
    { modelInput := ⟨some model⟩
      trainInput := ⟨some xTrain⟩
      trainOutput := ⟨some yTrain⟩
      validationInput := some xTest
      validationOutput := some yTest
      callbacks
      batchSize := training.batchSize
      epochs := training.epochs }
  dependencies := AscendingSet.extend ∅ after
  name := "train"

def saveModelTask (path : String) (model : Variable) (after : TaskId) : Task where
  body := .saveModel { modelInput := ⟨some model⟩, modelPath := ⟨some path⟩ }
  dependencies := AscendingSet.extend ∅ [after]
  name := "save_model"

theorem settled_eagerTask (name : String) : (eagerTask name).Settled [] [] where
  builtIn := rfl
  written := nofun
  waiting := rfl
  named := by simp [eagerTask, Body.named]
  inputs := ⟨∅, rfl, by simp⟩
  outputs := ⟨∅, rfl, by simp⟩

theorem settled_loadModelTask (path : String) (model : Variable) :
    (loadModelTask path model).Settled [] [model] where
  builtIn := rfl
  written := nofun
  waiting := rfl
  named := by simp [loadModelTask, Body.named]
  inputs := ⟨∅, rfl, by simp⟩
  outputs := ⟨.single model, rfl, by simp⟩

theorem settled_loadImageTask (path : String) (image : Variable) :
    (loadImageTask path image).Settled [] [image] where
  builtIn := rfl
  written := nofun
  waiting := rfl
  named := by simp [loadImageTask, Body.named]
  inputs := ⟨∅, rfl, by simp⟩
  outputs := ⟨.single image, rfl, by simp⟩

theorem settled_callTask (name : String) (call : PluginFunction) (arguments : List Variable)
    {results : List Variable} (hnodup : (results.map Variable.name).Nodup) (after : TaskId) :
    (callTask name call arguments results after).Settled arguments results where
  builtIn := rfl
  written := nofun
  waiting := rfl
  named := by simp [callTask, Body.named]
  inputs := ⟨.ofList arguments, rfl, fun _ => AscendingSet.mem_ofList_imp⟩
  outputs := ⟨.ofList results, rfl, fun _ => (mem_ofList_iff_of_nodup hnodup).mpr⟩

theorem settled_inferTask (model input prediction : Variable) (after : List TaskId) :
    (inferTask model input prediction after).Settled [model, input] [prediction] where
  builtIn := rfl
  written := nofun
  waiting := rfl
  named := by simp [inferTask, Body.named]
  inputs := ⟨.ofList [model, input], rfl, fun _ => AscendingSet.mem_ofList_imp⟩
  outputs := ⟨.single prediction, rfl, by simp⟩

theorem settled_applyLayersTask (current new : List Layer) (base model : Variable)
    (after : TaskId) : (applyLayersTask current new base model after).Settled [base] [model] where
  builtIn := rfl
  written := nofun
  waiting := rfl
  named := by simp [applyLayersTask, Body.named]
  inputs := ⟨.single base, rfl, by simp⟩
  outputs := ⟨.single model, rfl, by simp⟩

theorem settled_compileTask (training : TrainingPlan) (model : Variable) (after : TaskId) :
    (compileTask training model after).Settled [model] [] where
  builtIn := rfl
  written := nofun
  waiting := rfl
  named := by simp [compileTask, Body.named]
  inputs := ⟨.single model, rfl, by simp⟩
  outputs := ⟨∅, rfl, by simp⟩

theorem settled_loadDatasetTask (dataset : Dataset) {xTrain yTrain xTest yTest : Variable}
    (hnodup : ([xTrain, yTrain, xTest, yTest].map Variable.name).Nodup) :
    (loadDatasetTask dataset xTrain yTrain xTest yTest).Settled [] [xTrain, yTrain, xTest, yTest]
    where
  builtIn := rfl
  written := nofun
  waiting := rfl
  named := by simp [loadDatasetTask, Body.named]
  inputs := ⟨∅, rfl, by simp⟩
  outputs := ⟨.ofList [xTrain, yTrain, xTest, yTest], rfl,
    fun _ => (mem_ofList_iff_of_nodup hnodup).mpr⟩

theorem settled_checkpointTask (path : String) (callback : Variable) :
    (checkpointTask path callback).Settled [] [callback] where
  builtIn := rfl
  written := nofun
  waiting := rfl
  named := by simp [checkpointTask, Body.named]
  inputs := ⟨∅, rfl, by simp⟩
  outputs := ⟨.single callback, rfl, by simp⟩

theorem settled_trainTask (training : TrainingPlan) (model xTrain yTrain xTest yTest : Variable)
    (callbacks : List Variable) (after : List TaskId) :
    (trainTask training model xTrain yTrain xTest yTest callbacks after).Settled
      ([model, xTrain, yTrain, xTest, yTest] ++ callbacks) [] where
  builtIn := rfl
  written := nofun
  waiting := rfl
  named := by simp [trainTask, Body.named]
  inputs := by
    refine ⟨(AscendingSet.ofList [model, xTrain, yTrain]).extend
      (callbacks ++ [xTest] ++ [yTest]), rfl, fun slot hslot => ?_⟩
    have hmem := (AscendingSet.mem_extend_imp hslot).imp_left AscendingSet.mem_ofList_imp
    simp only [List.mem_append, List.mem_cons, List.not_mem_nil, or_false] at hmem ⊢
    grind
  outputs := ⟨∅, rfl, by simp⟩

theorem settled_saveModelTask (path : String) (model : Variable) (after : TaskId) :
    (saveModelTask path model after).Settled [model] [] where
  builtIn := rfl
  written := nofun
  waiting := rfl
  named := by simp [saveModelTask, Body.named]
  inputs := ⟨.single model, rfl, by simp⟩
  outputs := ⟨∅, rfl, by simp⟩

theorem check_applyLayersTask (env : Environment) (current new : List Layer)
    (base model : Variable) (after : TaskId) :
    (applyLayersTask current new base model after).body.check env =
      .ok (new.all fun layer =>
        current.any (·.name == layer.name) || layer.constructor?.isSome) := by
  have hsource : ∀ layer, (ApplyLayerDelta.source? current layer).isSome =
      (current.any (·.name == layer.name) || layer.constructor?.isSome) := by
    intro layer
    unfold ApplyLayerDelta.source?
    split <;> simp [*]
  simp only [← hsource]
  rfl

/-- The parts of a dataset get four names. -/
theorem check_loadDatasetTask (env : Environment) (dataset : Dataset)
    {xTrain yTrain xTest yTest : Variable}
    (hnodup : ([xTrain, yTrain, xTest, yTest].map Variable.name).Nodup) :
    (loadDatasetTask dataset xTrain yTrain xTest yTest).body.check env = .ok true := by
  have hlength := size_ofList_eq_iff.mpr hnodup
  exact congrArg Except.ok (beq_iff_eq.mpr hlength)

/-- Validation data is given in any case, and nothing is split off for it. -/
theorem check_trainTask (env : Environment) (training : TrainingPlan)
    (model xTrain yTrain xTest yTest : Variable) (callbacks : List Variable)
    (after : List TaskId) :
    (trainTask training model xTrain yTrain xTest yTest callbacks after).body.check env =
      .ok (decide (0 < training.epochs)) := by
  have hsplit : Binary64.zero.inUnitInterval = true := by decide
  simp [trainTask, Body.check, Train.check, hsplit]

end Job

end TaskScript
