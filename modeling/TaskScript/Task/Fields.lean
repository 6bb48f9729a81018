/-
What a task holds, field by field: the labels of the fields that wait for their value,
and the variables that the fields name.  Neither view goes through the code of the task.
-/
import TaskScript.Task.Body

namespace TaskScript

namespace Once

variable {label : String} {α : Type}

/-- The label of a field that waits for its value. -/
def waiting (field : Once label α) : List String := if field.isAssigned then [] else [label]

theorem mem_waiting {field : Once label α} {name : String} :
    name ∈ field.waiting ↔ field.isAssigned = false ∧ name = label := by
  unfold waiting
  split <;> simp_all

end Once

namespace Body

/-- The fields that wait for their value.  A custom task has none of its own. -/
def waiting : Body → List String
  | empty | enableEagerExecution | custom _ => []
  | loadModel t => t.modelPath.waiting ++ t.modelOutput.waiting
  | saveModel t => t.modelInput.waiting ++ t.modelPath.waiting
  | loadImage t => t.imagePath.waiting ++ t.imageOutput.waiting
  | runInference t => t.model.waiting ++ t.input.waiting ++ t.output.waiting
  | runPlugin t =>
      t.functionName.waiting ++ t.functionDefinition.waiting ++ t.functionInputs.waiting ++
        t.functionOutputs.waiting
  | applyLayerDelta t =>
      t.modelInput.waiting ++ t.currentLayers.waiting ++ t.newLayers.waiting ++
        t.newModelOutput.waiting
  | loadExampleDataset t =>
      t.dataset.waiting ++ t.xTrainOutput.waiting ++ t.yTrainOutput.waiting ++
        t.xTestOutput.waiting ++ t.yTestOutput.waiting
  | compileModel t => t.modelInput.waiting ++ t.optimizer.waiting ++ t.loss.waiting
  | train t => t.modelInput.waiting ++ t.trainInput.waiting ++ t.trainOutput.waiting
  | checkpointCallback t => t.filePath.waiting ++ t.output.waiting
  | csvLoggerCallback t => t.logFilePath.waiting ++ t.output.waiting

/-- The variables that the fields name, in the order of the fields. -/
def named : Body → List Variable
  | empty | enableEagerExecution | custom _ => []
  | loadModel t => t.modelOutput.value?.toList
  | saveModel t => t.modelInput.value?.toList
  | loadImage t => t.imageOutput.value?.toList
  | runInference t =>
      t.model.value?.toList ++ t.input.value?.toList ++ t.output.value?.toList ++ t.steps.toList
  | runPlugin t => t.functionInputs.value?.getD [] ++ t.functionOutputs.value?.getD []
  | applyLayerDelta t => t.modelInput.value?.toList ++ t.newModelOutput.value?.toList
  | loadExampleDataset t =>
      t.xTrainOutput.value?.toList ++ t.yTrainOutput.value?.toList ++
        t.xTestOutput.value?.toList ++ t.yTestOutput.value?.toList
  | compileModel t => t.modelInput.value?.toList
  | train t =>
      t.modelInput.value?.toList ++ t.trainInput.value?.toList ++ t.trainOutput.value?.toList ++
        t.validationInput.toList ++ t.validationOutput.toList ++ t.callbacks
  | checkpointCallback t => t.output.value?.toList
  | csvLoggerCallback t => t.output.value?.toList

end Body

end TaskScript
