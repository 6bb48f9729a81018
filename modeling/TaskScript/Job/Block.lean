/-
The configuration blocks of jobs.  Names are fixed but for what the supply of names
gives: the eager task of an inference job, and the variable between its preprocessing
and its model.
-/
import TaskScript.Draft
import TaskScript.Job.Basic
import TaskScript.Records

namespace TaskScript

/-- A plugin and the name of a function in it. -/
abbrev PluginFunction := Plugin × String

namespace InferenceJob

/-- The configuration of the script: the paths are resolved, the plugins found.  Other
scripts may be configured at the same time; `meanwhile` is the number of the names that
they draw between the two of this one. -/
def block (model : ModelDescription) (image : String)
    (preprocess postprocess : Option PluginFunction) (meanwhile : Nat) : Block Unit := do
  let modelVariable ← Block.declare "model"
  let imageVariable ← Block.declare "image"
  let prediction ← Block.declare "prediction"
  Block.require prediction
  let (eager, _) ← Block.createOnce (.builtIn .enableEagerExecution) (pure ())
  Block.markPregenerationLast eager
  Block.drawElsewhere meanwhile
  let loadModel ← Block.create (.builtIn .loadModel) "load_model" do
    Setup.assign (.modelPath model.path)
    Setup.assign (.modelOutput modelVariable)
  let loadImage ← Block.create (.builtIn .loadImage) "load_image" do
    Setup.assign (.imagePath image)
    Setup.assign (.imageOutput imageVariable)
  let (input, inputTask) ← prepare imageVariable loadImage
  let infer ← Block.create (.builtIn .runInference) "infer" do
    Setup.assign (.model modelVariable)
    Setup.assign (.input input)
    Setup.assign (.output prediction)
    Setup.dependOn [loadModel, inputTask]
  match postprocess with
  | none => pure ()
  | some (plugin, function) =>
      let post ← Block.create (.builtIn .runPlugin) "postprocess" do
        Setup.assign (.usePlugin plugin function)
        Setup.assign (.functionInputs [prediction])
        Setup.assign (.functionOutputs [])
        Setup.dependOn [infer]
      Block.markLast post
where
  /-- The input of the model and the task that makes it. -/
  prepare (image : Variable) (loadImage : TaskId) : Block (Variable × TaskId) :=
    match preprocess with
    | none => return (image, loadImage)
    | some (plugin, function) => do
        let data ← Block.declareUnique
        let task ← Block.create (.builtIn .runPlugin) "preprocess" do
          Setup.assign (.usePlugin plugin function)
          Setup.assign (.functionInputs [image])
          Setup.assign (.functionOutputs [data])
          Setup.dependOn [loadImage]
        return (data, task)

end InferenceJob

namespace RetrainJob

/-- The configuration of the script, for resolved paths. -/
def block (job : RetrainJob) (model : ModelDescription) (saveTo : String)
    (checkpoint : Option String) : Block Unit := do
  let baseModel ← Block.declare "base_model"
  let newModel ← Block.declare "new_model"
  let xTrain ← Block.declare "x_train"
  let yTrain ← Block.declare "y_train"
  let xTest ← Block.declare "x_test"
  let yTest ← Block.declare "y_test"
  let load ← Block.create (.builtIn .loadModel) "load_model" do
    Setup.assign (.modelPath model.path)
    Setup.assign (.modelOutput baseModel)
  let delta ← Block.create (.builtIn .applyLayerDelta) "apply_layers" do
    Setup.assign (.modelInput baseModel)
    Setup.assign (.currentLayers model.layers)
    Setup.assign (.newLayers job.layers)
    Setup.assign (.newModelOutput newModel)
    Setup.dependOn [load]
  let compile ← Block.create (.builtIn .compileModel) "compile" do
    Setup.assign (.modelInput newModel)
    Setup.assign (.optimizer job.training.optimizer)
    Setup.assign (.loss job.training.loss)
    Setup.assign (.metrics job.training.metrics)
    Setup.dependOn [delta]
  let data ← Block.create (.builtIn .loadExampleDataset) "load_dataset" do
    Setup.assign (.dataset job.dataset)
    Setup.assign (.xTrainOutput xTrain)
    Setup.assign (.yTrainOutput yTrain)
    Setup.assign (.xTestOutput xTest)
    Setup.assign (.yTestOutput yTest)
  let callbacks ← makeCallbacks
  let train ← Block.create (.builtIn .train) "train" do
    Setup.assign (.modelInput newModel)
    Setup.assign (.trainInput xTrain)
    Setup.assign (.trainOutput yTrain)
    Setup.assign (.validationInput (some xTest))
    Setup.assign (.validationOutput (some yTest))
    Setup.assign (.callbacks (callbacks.map Prod.fst))
    Setup.assign (.epochs job.training.epochs)
    Setup.assign (.batchSize job.training.batchSize)
    Setup.dependOn ([compile, data] ++ callbacks.map Prod.snd)
  let save ← Block.create (.builtIn .saveModel) "save_model" do
    Setup.assign (.modelInput newModel)
    Setup.assign (.modelPath saveTo)
    Setup.dependOn [train]
  Block.markLast save
where
  /-- The callbacks of the training, each with the task that makes it. -/
  makeCallbacks : Block (List (Variable × TaskId)) :=
    match checkpoint with
    | none => return []
    | some path => do
        let callback ← Block.declare "checkpoint"
        let task ← Block.create (.builtIn .checkpointCallback) "checkpoint" do
          Setup.assign (.filePath path)
          Setup.assign (.output callback)
        return [(callback, task)]

end RetrainJob

end TaskScript
