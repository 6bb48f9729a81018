/-
Tasks that read from storage and write to it: models, images and example datasets.
-/
import TaskScript.Once
import TaskScript.Environment
import TaskScript.Training

namespace TaskScript

namespace Import

/-- The import that nearly every task needs. -/
def tensorflow : Import := { source := "tensorflow", alias? := some "tf" }

def image : Import := { source := "PIL", identifier? := some "Image" }

end Import

structure LoadModel where
  modelPath : Once "model_path" String := {}
  modelOutput : Once "model_output" Variable := {}
  deriving DecidableEq, Repr

namespace LoadModel

def outputs (task : LoadModel) : Reading VariableSet := do
  return .single (← task.modelOutput.read)

def check (env : Environment) (task : LoadModel) : Reading Bool := do
  return env.acceptsPath (← task.modelPath.read)

def code (task : LoadModel) : Reading String := do
  let model ← task.modelOutput.read
  let path ← task.modelPath.read
  return s!"{model.name} = tf.keras.models.load_model({Text.quote path})"

end LoadModel

structure SaveModel where
  modelInput : Once "model_input" Variable := {}
  modelPath : Once "model_path" String := {}
  deriving DecidableEq, Repr

namespace SaveModel

def inputs (task : SaveModel) : Reading VariableSet := do
  return .single (← task.modelInput.read)

def check (env : Environment) (task : SaveModel) : Reading Bool := do
  return env.acceptsPath (← task.modelPath.read)

def code (task : SaveModel) : Reading String := do
  let model ← task.modelInput.read
  let path ← task.modelPath.read
  return s!"{model.name}.save({Text.quote path})"

end SaveModel

structure LoadImage where
  imagePath : Once "image_path" String := {}
  imageOutput : Once "image_output" Variable := {}
  deriving DecidableEq, Repr

namespace LoadImage

def outputs (task : LoadImage) : Reading VariableSet := do
  return .single (← task.imageOutput.read)

def check (env : Environment) (task : LoadImage) : Reading Bool := do
  return env.acceptsPath (← task.imagePath.read)

def code (task : LoadImage) : Reading String := do
  let image ← task.imageOutput.read
  let path ← task.imagePath.read
  return s!"{image.name} = Image.open({Text.quote path})"

end LoadImage

structure LoadExampleDataset where
  dataset : Once "dataset" Dataset := {}
  xTrainOutput : Once "x_train_output" Variable := {}
  yTrainOutput : Once "y_train_output" Variable := {}
  xTestOutput : Once "x_test_output" Variable := {}
  yTestOutput : Once "y_test_output" Variable := {}
  deriving DecidableEq, Repr

namespace LoadExampleDataset

def outputs (task : LoadExampleDataset) : Reading VariableSet := do
  let xTrain ← task.xTrainOutput.read
  let yTrain ← task.yTrainOutput.read
  let xTest ← task.xTestOutput.read
  let yTest ← task.yTestOutput.read
  return .ofList [xTrain, yTrain, xTest, yTest]

/-- The four outputs are unpacked from one tuple, so they must differ. -/
def check (task : LoadExampleDataset) : Reading Bool := do
  return (← task.outputs).size == 4

def code (task : LoadExampleDataset) : Reading String := do
  let xTrain ← task.xTrainOutput.read
  let yTrain ← task.yTrainOutput.read
  let xTest ← task.xTestOutput.read
  let yTest ← task.yTestOutput.read
  let dataset ← task.dataset.read
  return s!"({xTrain.name}, {yTrain.name}), ({xTest.name}, {yTest.name}) = " ++
    s!"tf.keras.datasets.{dataset.name}.load_data()"

end LoadExampleDataset

end TaskScript
