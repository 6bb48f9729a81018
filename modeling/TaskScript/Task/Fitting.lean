/-
Tasks that build a model from the layers of another one, prepare it for training and
fit it.
-/
import TaskScript.Task.Storage
import TaskScript.Task.Prediction

namespace TaskScript

/-- Builds a sequential model.  Layers that the starting model has are taken from it,
the others are built by their constructor. -/
structure ApplyLayerDelta where
  modelInput : Once "model_input" Variable := {}
  currentLayers : Once "current_layers" (List Layer) := {}
  newLayers : Once "new_layers" (List Layer) := {}
  newModelOutput : Once "new_model_output" Variable := {}
  deriving DecidableEq, Repr

namespace ApplyLayerDelta

/-- Where a layer of the new model comes from. -/
inductive Source where
  | copied (name : String)
  | built (expression : String)
  deriving DecidableEq, Repr

def source? (current : List Layer) (layer : Layer) : Option Source :=
  if current.any (·.name == layer.name) then some (.copied layer.name)
  else layer.constructor?.map .built

def Source.code (model : Variable) : Source → String
  | .copied name => s!"{model.name}.get_layer({Text.quote name})"
  | .built expression => expression

def inputs (task : ApplyLayerDelta) : Reading VariableSet := do
  return .single (← task.modelInput.read)

def outputs (task : ApplyLayerDelta) : Reading VariableSet := do
  return .single (← task.newModelOutput.read)

/-- Every layer of the new model has a source. -/
def check (task : ApplyLayerDelta) : Reading Bool := do
  let current ← task.currentLayers.read
  let new ← task.newLayers.read
  return new.all fun layer => (source? current layer).isSome

/-- The list of layers: on one line up to one, else a line for each. -/
def sequence (layers : List String) : String :=
  if layers.length ≤ 1 then "[" ++ String.join layers ++ "]"
  else "[\n    " ++ ",\n    ".intercalate layers ++ "\n]"

/-- The line that sets the layer's flag, if the layer has one. -/
def flagLine (model : Variable) (layer : Layer) : String :=
  match layer.trainable with
  | none => ""
  | some flag =>
      s!"\n{model.name}.get_layer({Text.quote layer.name}).trainable = {Text.truth flag}"

def code (task : ApplyLayerDelta) : Reading String := do
  let input ← task.modelInput.read
  let output ← task.newModelOutput.read
  let new ← task.newLayers.read
  let current ← task.currentLayers.read
  let layers := (new.filterMap (source? current)).map (·.code input)
  return s!"{output.name} = tf.keras.Sequential({sequence layers})" ++
    String.join (new.map (flagLine output))

end ApplyLayerDelta

structure CompileModel where
  modelInput : Once "model_input" Variable := {}
  optimizer : Once "optimizer" Optimizer := {}
  loss : Once "loss" Loss := {}
  metrics : List String := []
  deriving DecidableEq, Repr

namespace CompileModel

def inputs (task : CompileModel) : Reading VariableSet := do
  return .single (← task.modelInput.read)

def code (task : CompileModel) : Reading String := do
  let metrics := ", ".intercalate (task.metrics.map Text.quote)
  let model ← task.modelInput.read
  let optimizer ← task.optimizer.read
  let loss ← task.loss.read
  return s!"{model.name}.compile(\n    optimizer={optimizer.code},\n    loss={loss.code},\n" ++
    s!"    metrics=[{metrics}]\n)"

end CompileModel

/-- Fits a model.  Validation data has an input and an output or neither, and goes
before the split when it is there. -/
structure Train where
  modelInput : Once "model_input" Variable := {}
  trainInput : Once "train_input" Variable := {}
  trainOutput : Once "train_output" Variable := {}
  validationSplit : Binary64 := .zero
  validationInput : Option Variable := none
  validationOutput : Option Variable := none
  callbacks : List Variable := []
  batchSize : Option Nat := none
  epochs : Nat := 1
  verbosity : Verbosity := .oneLinePerEpoch
  shuffle : Bool := true
  deriving DecidableEq, Repr

namespace Train

def inputs (task : Train) : Reading VariableSet := do
  let model ← task.modelInput.read
  let input ← task.trainInput.read
  let output ← task.trainOutput.read
  return (AscendingSet.ofList [model, input, output]).extend
    (task.callbacks ++ task.validationInput.toList ++ task.validationOutput.toList)

def check (task : Train) : Bool :=
  task.validationInput.isSome == task.validationOutput.isSome
    && task.validationSplit.inUnitInterval && 0 < task.epochs

def validationLine (task : Train) : String :=
  match task.validationInput, task.validationOutput with
  | some input, some output => s!"\n    validation_data=({input.name}, {output.name}),"
  | _, _ => ""

def code (task : Train) : Reading String := do
  let batchSize :=
    match task.batchSize with
    | some size => toString size
    | none => "None"
  let model ← task.modelInput.read
  let input ← task.trainInput.read
  let output ← task.trainOutput.read
  return s!"{model.name}.fit(\n    {input.name},\n    {output.name},\n" ++
    s!"    batch_size={batchSize},\n    epochs={task.epochs},\n" ++
    s!"    verbose={task.verbosity.level},\n    callbacks=[{Variable.listed task.callbacks}],\n" ++
    s!"    validation_split={task.validationSplit.text},{task.validationLine}\n" ++
    s!"    shuffle={Text.truth task.shuffle}\n)"

end Train

end TaskScript
