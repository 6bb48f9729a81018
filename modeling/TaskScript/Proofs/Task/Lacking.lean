/-
Which fields an answer lacks.  Steps put together lack the fields of each, so what a task
asks for can be read off its definition: its code asks for every field, its check only for
those of its variables and, if all of these are valid, for those of the rule of its kind.
-/
import TaskScript.Task.Fields

namespace TaskScript

/-- The answer is given if no field is missing, and names one of the missing ones if not. -/
structure Lacks {α : Type} (answer : Reading α) (fields : List String) : Prop where
  of_ok : ∀ value, answer = .ok value → fields = []
  of_error : ∀ error, answer = .error error → error.field ∈ fields

namespace Reading

variable {α β : Type} {label : String}

theorem bind_eq_ok_iff {answer : Reading α} {next : α → Reading β} {result : β} :
    (answer >>= next) = .ok result ↔ ∃ value, answer = .ok value ∧ next value = .ok result := by
  cases answer <;> simp [bind, Except.bind]

theorem pure_eq_ok_iff {value result : α} :
    (pure value : Reading α) = .ok result ↔ value = result :=
  ⟨Except.ok.inj, congrArg Except.ok⟩

theorem read_eq_ok_iff {field : Once label α} {value : α} :
    field.read = .ok value ↔ field.value? = some value := by
  obtain ⟨_ | kept⟩ := field <;> simp [Once.read]

end Reading

namespace Lacks

variable {α β : Type} {label : String} {answer : Reading α} {fields more : List String}

theorem ok (value : α) : Lacks (.ok value) [] := by
  refine ⟨fun _ _ => rfl, ?_⟩
  rintro _ ⟨⟩

theorem read (field : Once label α) : Lacks field.read field.waiting := by
  obtain ⟨_ | value⟩ := field
  · refine ⟨?_, ?_⟩
    · rintro _ ⟨⟩
    · rintro _ ⟨⟩
      exact List.mem_singleton_self label
  · exact ok value

theorem bind {next : α → Reading β} (hanswer : Lacks answer fields)
    (hnext : ∀ value, answer = .ok value → Lacks (next value) more) :
    Lacks (answer >>= next) (fields ++ more) := by
  cases h : answer with
  | error error =>
      refine ⟨?_, ?_⟩
      · rintro _ ⟨⟩
      · rintro _ ⟨⟩
        exact List.mem_append_left more (hanswer.of_error error h)
  | ok value =>
      rw [hanswer.of_ok value h]
      exact hnext value h

theorem read_bind {field : Once label α} {next : α → Reading β}
    (hnext : ∀ value, Lacks (next value) fields) :
    Lacks (field.read >>= next) (field.waiting ++ fields) :=
  (read field).bind fun value _ => hnext value

theorem of_mem_iff (hanswer : Lacks answer fields) (hmem : ∀ name, name ∈ fields ↔ name ∈ more) :
    Lacks answer more := by
  refine ⟨?_, fun error h => (hmem _).mp (hanswer.of_error error h)⟩
  intro value h
  rw [List.eq_nil_iff_forall_not_mem]
  intro name hname
  rw [← hmem, hanswer.of_ok value h] at hname
  cases hname

theorem exists_error_iff (hanswer : Lacks answer fields) :
    (∃ error, answer = .error error) ↔ fields ≠ [] := by
  constructor
  · rintro ⟨error, h⟩
    exact List.ne_nil_of_mem (hanswer.of_error error h)
  · intro hfields
    cases h : answer with
    | error error => exact ⟨error, rfl⟩
    | ok value => exact absurd (hanswer.of_ok value h) hfields

theorem exists_ok_of_forall_notMem (hanswer : Lacks answer fields)
    (hfields : ∀ name, name ∉ fields) : ∃ value, answer = .ok value := by
  cases h : answer with
  | error error => exact absurd (hanswer.of_error error h) (hfields _)
  | ok value => exact ⟨value, rfl⟩

end Lacks

namespace Body

/-- The code of a task asks for every field of the task. -/
theorem lacks_code {body : Body} (hbuiltIn : body.isBuiltIn = true) :
    Lacks body.code body.waiting := by
  cases body with
  | empty => exact .ok _
  | enableEagerExecution => exact .ok _
  | loadModel task =>
      refine Lacks.of_mem_iff (.read_bind fun _ => .read_bind fun _ => .ok _) ?_
      simp [waiting, or_comm]
  | saveModel task =>
      refine Lacks.of_mem_iff (.read_bind fun _ => .read_bind fun _ => .ok _) ?_
      simp [waiting]
  | loadImage task =>
      refine Lacks.of_mem_iff (.read_bind fun _ => .read_bind fun _ => .ok _) ?_
      simp [waiting, or_comm]
  | runInference task =>
      refine Lacks.of_mem_iff
        (.read_bind fun _ => .read_bind fun _ => .read_bind fun _ => .ok _) ?_
      simp [waiting, or_comm, or_left_comm, or_assoc]
  | runPlugin task =>
      refine Lacks.of_mem_iff
        (.read_bind fun _ => .read_bind fun _ => .read_bind fun _ => .read_bind fun _ => .ok _) ?_
      simp [waiting, or_comm, or_left_comm, or_assoc]
  | applyLayerDelta task =>
      refine Lacks.of_mem_iff
        (.read_bind fun _ => .read_bind fun _ => .read_bind fun _ => .read_bind fun _ => .ok _) ?_
      simp [waiting, or_comm, or_left_comm, or_assoc]
  | loadExampleDataset task =>
      refine Lacks.of_mem_iff
        (.read_bind fun _ => .read_bind fun _ => .read_bind fun _ => .read_bind fun _ =>
          .read_bind fun _ => .ok _) ?_
      simp [waiting, or_comm, or_left_comm, or_assoc]
  | compileModel task =>
      refine Lacks.of_mem_iff
        (.read_bind fun _ => .read_bind fun _ => .read_bind fun _ => .ok _) ?_
      simp [waiting]
  | train task =>
      refine Lacks.of_mem_iff
        (.read_bind fun _ => .read_bind fun _ => .read_bind fun _ => .ok _) ?_
      simp [waiting]
  | checkpointCallback task =>
      refine Lacks.of_mem_iff (.read_bind fun _ => .read_bind fun _ => .ok _) ?_
      simp [waiting]
  | csvLoggerCallback task =>
      refine Lacks.of_mem_iff (.read_bind fun _ => .read_bind fun _ => .ok _) ?_
      simp [waiting, or_comm]
  | custom task => cases hbuiltIn

/-- A task whose code is known has no waiting field. -/
theorem waiting_eq_nil_of_code {body : Body} {code : String} (hcode : body.code = .ok code) :
    body.waiting = [] := by
  cases htype : body.isBuiltIn with
  | false =>
      cases body with
      | custom task => rfl
      | _ => cases htype
  | true => exact (lacks_code htype).of_ok code hcode

/-- The waiting fields among those that say what a task reads. -/
def waitingInputs : Body → List String
  | saveModel t => t.modelInput.waiting
  | runInference t => t.model.waiting ++ t.input.waiting
  | runPlugin t => t.functionInputs.waiting
  | applyLayerDelta t => t.modelInput.waiting
  | compileModel t => t.modelInput.waiting
  | train t => t.modelInput.waiting ++ t.trainInput.waiting ++ t.trainOutput.waiting
  | empty | enableEagerExecution | loadModel _ | loadImage _ | loadExampleDataset _
  | checkpointCallback _ | csvLoggerCallback _ | custom _ => []

/-- The waiting fields among those that say what a task assigns. -/
def waitingOutputs : Body → List String
  | loadModel t => t.modelOutput.waiting
  | loadImage t => t.imageOutput.waiting
  | runInference t => t.output.waiting
  | runPlugin t => t.functionOutputs.waiting
  | applyLayerDelta t => t.newModelOutput.waiting
  | loadExampleDataset t =>
      t.xTrainOutput.waiting ++ t.yTrainOutput.waiting ++ t.xTestOutput.waiting ++
        t.yTestOutput.waiting
  | checkpointCallback t => t.output.waiting
  | csvLoggerCallback t => t.output.waiting
  | empty | enableEagerExecution | saveModel _ | compileModel _ | train _ | custom _ => []

/-- The waiting fields among those that the rule of the kind looks at.  A checkpoint whose
mode is unknown is refused before its path is looked at. -/
def waitingRule : Body → List String
  | loadModel t => t.modelPath.waiting
  | saveModel t => t.modelPath.waiting
  | loadImage t => t.imagePath.waiting
  | runPlugin t => t.functionDefinition.waiting ++ t.functionName.waiting
  | applyLayerDelta t => t.currentLayers.waiting ++ t.newLayers.waiting
  | loadExampleDataset t => waitingOutputs (loadExampleDataset t)
  | checkpointCallback t => if t.mode ∈ CheckpointCallback.modes then t.filePath.waiting else []
  | csvLoggerCallback t => t.logFilePath.waiting
  | empty | enableEagerExecution | runInference _ | compileModel _ | train _ | custom _ => []

theorem lacks_inputs {body : Body} (hbuiltIn : body.isBuiltIn = true) :
    Lacks body.inputs body.waitingInputs := by
  cases body with
  | saveModel task | runPlugin task | applyLayerDelta task | compileModel task =>
      refine Lacks.of_mem_iff (.read_bind fun _ => .ok _) ?_
      simp [waitingInputs]
  | runInference task =>
      refine Lacks.of_mem_iff (.read_bind fun _ => .read_bind fun _ => .ok _) ?_
      simp [waitingInputs]
  | train task =>
      refine Lacks.of_mem_iff
        (.read_bind fun _ => .read_bind fun _ => .read_bind fun _ => .ok _) ?_
      simp [waitingInputs]
  | empty | enableEagerExecution | loadModel | loadImage | loadExampleDataset
  | checkpointCallback | csvLoggerCallback => exact .ok _
  | custom task => cases hbuiltIn

theorem lacks_outputs {body : Body} (hbuiltIn : body.isBuiltIn = true) :
    Lacks body.outputs body.waitingOutputs := by
  cases body with
  | loadModel task | loadImage task | runInference task | runPlugin task | applyLayerDelta task
  | checkpointCallback task | csvLoggerCallback task =>
      refine Lacks.of_mem_iff (.read_bind fun _ => .ok _) ?_
      simp [waitingOutputs]
  | loadExampleDataset task =>
      refine Lacks.of_mem_iff
        (.read_bind fun _ => .read_bind fun _ => .read_bind fun _ => .read_bind fun _ => .ok _) ?_
      simp [waitingOutputs]
  | empty | enableEagerExecution | saveModel | compileModel | train => exact .ok _
  | custom task => cases hbuiltIn

theorem lacks_check (env : Environment) {body : Body} (hbuiltIn : body.isBuiltIn = true) :
    Lacks (body.check env) body.waitingRule := by
  cases body with
  | loadModel task | saveModel task | loadImage task | csvLoggerCallback task =>
      refine Lacks.of_mem_iff (.read_bind fun _ => .ok _) ?_
      simp [waitingRule]
  | runPlugin task | applyLayerDelta task =>
      refine Lacks.of_mem_iff (.read_bind fun _ => .read_bind fun _ => .ok _) ?_
      simp [waitingRule]
  | loadExampleDataset task =>
      have houtputs : Lacks (loadExampleDataset task).outputs _ := lacks_outputs hbuiltIn
      refine (houtputs.bind fun _ _ => .ok _).of_mem_iff ?_
      simp [waitingRule]
  | checkpointCallback task =>
      simp only [check, CheckpointCallback.check, waitingRule]
      split
      · refine Lacks.of_mem_iff (.read_bind fun _ => .ok _) ?_
        simp
      · exact .ok _
  | empty | enableEagerExecution | runInference | compileModel | train => exact .ok _
  | custom task => cases hbuiltIn

/-- The variables a task reads, then those it assigns. -/
def used (body : Body) : Reading (List Variable) := do
  let inputs ← body.inputs
  let outputs ← body.outputs
  return inputs.items ++ outputs.items

theorem lacks_used {body : Body} (hbuiltIn : body.isBuiltIn = true) :
    Lacks body.used (body.waitingInputs ++ body.waitingOutputs) := by
  refine ((lacks_inputs hbuiltIn).bind fun _ _ => (lacks_outputs hbuiltIn).bind fun _ _ =>
    .ok _).of_mem_iff ?_
  simp

/-- The check looks at no field that the task does not have. -/
theorem mem_waiting_of_checked {body : Body} {name : String}
    (hname : name ∈ body.waitingInputs ++ body.waitingOutputs ∨ name ∈ body.waitingRule) :
    name ∈ body.waiting := by
  cases body with
  | checkpointCallback task =>
      by_cases hmode : task.mode ∈ CheckpointCallback.modes
      · simpa [waitingInputs, waitingOutputs, waitingRule, waiting, hmode, or_comm] using hname
      · have houtput : name ∈ task.output.waiting := by
          simpa [waitingInputs, waitingOutputs, waitingRule, hmode] using hname
        exact List.mem_append_right _ houtput
  | _ => grind [waitingInputs, waitingOutputs, waitingRule, waiting]

theorem isConfigured_eq (env : Environment) (body : Body) :
    body.isConfigured env = body.used >>= fun used =>
      if used.all Variable.isValid then body.check env else .ok false := by
  unfold isConfigured used
  cases body.inputs with
  | error error => rfl
  | ok inputs => cases body.outputs <;> rfl

/-- The waiting fields that the check asks for: those of the rule only if all variables
are valid. -/
def asked (body : Body) : List String :=
  body.waitingInputs ++ body.waitingOutputs ++
    match body.used with
    | .ok used => if used.all Variable.isValid then body.waitingRule else []
    | .error _ => []

theorem mem_waiting_of_asked {body : Body} {name : String} (hname : name ∈ body.asked) :
    name ∈ body.waiting := by
  apply mem_waiting_of_checked
  unfold asked at hname
  refine (List.mem_append.mp hname).imp_right fun hrule => ?_
  split at hrule
  · split at hrule
    · exact hrule
    · cases hrule
  · cases hrule

theorem lacks_isConfigured (env : Environment) {body : Body} (hbuiltIn : body.isBuiltIn = true) :
    Lacks (body.isConfigured env) body.asked := by
  rw [isConfigured_eq]
  -- The variables are known from here on, and with them whether the rule is looked at.
  refine (lacks_used hbuiltIn).bind fun used hused => ?_
  simp only [hused]
  split
  · exact lacks_check env hbuiltIn
  · exact .ok false

end Body

end TaskScript
