/-
Assignments to the fields of a task.  A field that is assigned once refuses a second
value; the others take the last one.  An assignment to a field that the task does
not have changes nothing.
-/
import TaskScript.Task.Body

namespace TaskScript

inductive Assignment where
  | modelPath (path : String)
  | modelInput (model : Variable)
  | modelOutput (model : Variable)
  | imagePath (path : String)
  | imageOutput (image : Variable)
  | dataset (dataset : Dataset)
  | xTrainOutput (data : Variable)
  | yTrainOutput (data : Variable)
  | xTestOutput (data : Variable)
  | yTestOutput (data : Variable)
  | model (model : Variable)
  | input (data : Variable)
  | output (data : Variable)
  | steps (steps : Option Variable)
  | functionName (name : String)
  | functionDefinition (source : String)
  | functionInputs (arguments : List Variable)
  | functionOutputs (results : List Variable)
  | usePlugin (plugin : Plugin) (function : String)
  | currentLayers (layers : List Layer)
  | newLayers (layers : List Layer)
  | newModelOutput (model : Variable)
  | optimizer (optimizer : Optimizer)
  | loss (loss : Loss)
  | metrics (names : List String)
  | trainInput (data : Variable)
  | trainOutput (data : Variable)
  | validationSplit (share : Binary64)
  | validationInput (data : Option Variable)
  | validationOutput (data : Option Variable)
  | callbacks (callbacks : List Variable)
  | batchSize (size : Option Nat)
  | epochs (count : Nat)
  | verbosity (verbosity : Verbosity)
  | shuffle (flag : Bool)
  | filePath (path : String)
  | monitor (quantity : String)
  | verbose (flag : Bool)
  | saveBestOnly (flag : Bool)
  | mode (mode : String)
  | saveWeightsOnly (flag : Bool)
  | saveFrequency (frequency : SaveFrequency)
  | loadWeightsOnRestart (flag : Bool)
  | logFilePath (path : String)
  | separator (separator : Char)
  | append (flag : Bool)
  | reportedKind (kind : TaskKind)
  | imports (imports : ImportSet)
  | inputs (answer : Reading VariableSet)
  | outputs (answer : Reading VariableSet)
  | check (answer : Reading Bool)
  | code (answer : Reading String)

variable {label : String} {α τ : Type}

/-- Assigns a field of `task` and stores it, or leaves the task as it is. -/
def Once.assignIn (task : τ) (field : Once label α) (value : α) (store : Once label α → τ) :
    τ × Except Reassigned Unit :=
  match field.assign value with
  | .ok field => (store field, .ok ())
  | .error error => (task, .error error)

def LoadModel.assign (task : LoadModel) : Assignment → LoadModel × Except Reassigned Unit
  | .modelPath path => task.modelPath.assignIn task path ({ task with modelPath := · })
  | .modelOutput model => task.modelOutput.assignIn task model ({ task with modelOutput := · })
  | _ => (task, .ok ())

def SaveModel.assign (task : SaveModel) : Assignment → SaveModel × Except Reassigned Unit
  | .modelInput model => task.modelInput.assignIn task model ({ task with modelInput := · })
  | .modelPath path => task.modelPath.assignIn task path ({ task with modelPath := · })
  | _ => (task, .ok ())

def LoadImage.assign (task : LoadImage) : Assignment → LoadImage × Except Reassigned Unit
  | .imagePath path => task.imagePath.assignIn task path ({ task with imagePath := · })
  | .imageOutput image => task.imageOutput.assignIn task image ({ task with imageOutput := · })
  | _ => (task, .ok ())

def LoadExampleDataset.assign (task : LoadExampleDataset) :
    Assignment → LoadExampleDataset × Except Reassigned Unit
  | .dataset dataset => task.dataset.assignIn task dataset ({ task with dataset := · })
  | .xTrainOutput data => task.xTrainOutput.assignIn task data ({ task with xTrainOutput := · })
  | .yTrainOutput data => task.yTrainOutput.assignIn task data ({ task with yTrainOutput := · })
  | .xTestOutput data => task.xTestOutput.assignIn task data ({ task with xTestOutput := · })
  | .yTestOutput data => task.yTestOutput.assignIn task data ({ task with yTestOutput := · })
  | _ => (task, .ok ())

def RunInference.assign (task : RunInference) :
    Assignment → RunInference × Except Reassigned Unit
  | .model model => task.model.assignIn task model ({ task with model := · })
  | .input data => task.input.assignIn task data ({ task with input := · })
  | .output data => task.output.assignIn task data ({ task with output := · })
  | .steps steps => ({ task with steps }, .ok ())
  | _ => (task, .ok ())

def RunPlugin.assign (task : RunPlugin) : Assignment → RunPlugin × Except Reassigned Unit
  | .functionName name => task.functionName.assignIn task name ({ task with functionName := · })
  | .functionDefinition source =>
      task.functionDefinition.assignIn task source ({ task with functionDefinition := · })
  | .functionInputs arguments =>
      task.functionInputs.assignIn task arguments ({ task with functionInputs := · })
  | .functionOutputs results =>
      task.functionOutputs.assignIn task results ({ task with functionOutputs := · })
  | .usePlugin plugin function => task.usePlugin plugin function
  | _ => (task, .ok ())

def ApplyLayerDelta.assign (task : ApplyLayerDelta) :
    Assignment → ApplyLayerDelta × Except Reassigned Unit
  | .modelInput model => task.modelInput.assignIn task model ({ task with modelInput := · })
  | .currentLayers layers =>
      task.currentLayers.assignIn task layers ({ task with currentLayers := · })
  | .newLayers layers => task.newLayers.assignIn task layers ({ task with newLayers := · })
  | .newModelOutput model =>
      task.newModelOutput.assignIn task model ({ task with newModelOutput := · })
  | _ => (task, .ok ())

def CompileModel.assign (task : CompileModel) :
    Assignment → CompileModel × Except Reassigned Unit
  | .modelInput model => task.modelInput.assignIn task model ({ task with modelInput := · })
  | .optimizer optimizer => task.optimizer.assignIn task optimizer ({ task with optimizer := · })
  | .loss loss => task.loss.assignIn task loss ({ task with loss := · })
  | .metrics metrics => ({ task with metrics }, .ok ())
  | _ => (task, .ok ())

def Train.assign (task : Train) : Assignment → Train × Except Reassigned Unit
  | .modelInput model => task.modelInput.assignIn task model ({ task with modelInput := · })
  | .trainInput data => task.trainInput.assignIn task data ({ task with trainInput := · })
  | .trainOutput data => task.trainOutput.assignIn task data ({ task with trainOutput := · })
  | .validationSplit validationSplit => ({ task with validationSplit }, .ok ())
  | .validationInput validationInput => ({ task with validationInput }, .ok ())
  | .validationOutput validationOutput => ({ task with validationOutput }, .ok ())
  | .callbacks callbacks => ({ task with callbacks }, .ok ())
  | .batchSize batchSize => ({ task with batchSize }, .ok ())
  | .epochs epochs => ({ task with epochs }, .ok ())
  | .verbosity verbosity => ({ task with verbosity }, .ok ())
  | .shuffle shuffle => ({ task with shuffle }, .ok ())
  | _ => (task, .ok ())

def CheckpointCallback.assign (task : CheckpointCallback) :
    Assignment → CheckpointCallback × Except Reassigned Unit
  | .filePath path => task.filePath.assignIn task path ({ task with filePath := · })
  | .output data => task.output.assignIn task data ({ task with output := · })
  | .monitor monitor => ({ task with monitor }, .ok ())
  | .verbose verbose => ({ task with verbose }, .ok ())
  | .saveBestOnly saveBestOnly => ({ task with saveBestOnly }, .ok ())
  | .mode mode => ({ task with mode }, .ok ())
  | .saveWeightsOnly saveWeightsOnly => ({ task with saveWeightsOnly }, .ok ())
  | .saveFrequency saveFrequency => ({ task with saveFrequency }, .ok ())
  | .loadWeightsOnRestart loadWeightsOnRestart => ({ task with loadWeightsOnRestart }, .ok ())
  | _ => (task, .ok ())

def CsvLoggerCallback.assign (task : CsvLoggerCallback) :
    Assignment → CsvLoggerCallback × Except Reassigned Unit
  | .logFilePath path => task.logFilePath.assignIn task path ({ task with logFilePath := · })
  | .output data => task.output.assignIn task data ({ task with output := · })
  | .separator separator => ({ task with separator }, .ok ())
  | .append append => ({ task with append }, .ok ())
  | _ => (task, .ok ())

def CustomTask.assign (task : CustomTask) : Assignment → CustomTask
  | .reportedKind reportedKind => { task with reportedKind }
  | .imports imports => { task with imports }
  | .inputs inputs => { task with inputs }
  | .outputs outputs => { task with outputs }
  | .check check => { task with check }
  | .code code => { task with code }
  | _ => task

def Body.assign (assignment : Assignment) : Body → Body × Except Reassigned Unit
  | .empty => (.empty, .ok ())
  | .enableEagerExecution => (.enableEagerExecution, .ok ())
  | .loadModel task => (task.assign assignment).map .loadModel id
  | .saveModel task => (task.assign assignment).map .saveModel id
  | .loadImage task => (task.assign assignment).map .loadImage id
  | .runInference task => (task.assign assignment).map .runInference id
  | .runPlugin task => (task.assign assignment).map .runPlugin id
  | .applyLayerDelta task => (task.assign assignment).map .applyLayerDelta id
  | .loadExampleDataset task => (task.assign assignment).map .loadExampleDataset id
  | .compileModel task => (task.assign assignment).map .compileModel id
  | .train task => (task.assign assignment).map .train id
  | .checkpointCallback task => (task.assign assignment).map .checkpointCallback id
  | .csvLoggerCallback task => (task.assign assignment).map .csvLoggerCallback id
  | .custom task => (.custom (task.assign assignment), .ok ())

/-- An assignment never changes what a task was created as. -/
theorem Body.type_assign (assignment : Assignment) (body : Body) :
    (body.assign assignment).1.type = body.type := by
  cases body with
  | custom task => cases assignment <;> rfl
  | _ => rfl

end TaskScript
