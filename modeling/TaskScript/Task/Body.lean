/-
What a task does, by kind: the variables it reads and assigns, the imports it needs,
its rule of validity and its code.  A custom task carries its answers with it.
-/
import TaskScript.Task.Kind
import TaskScript.Task.Fitting
import TaskScript.Task.Callback

namespace TaskScript

/-- A task outside the built-in kinds.  Its answers are given; an answer may lack a
field. -/
structure CustomTask where
  /-- The kind of the type that the task was created as. -/
  declaredKind : TaskKind := .empty
  reportedKind : TaskKind := declaredKind
  imports : ImportSet := ∅
  inputs : Reading VariableSet := .ok ∅
  outputs : Reading VariableSet := .ok ∅
  check : Reading Bool := .ok true
  code : Reading String := .ok "pass"

inductive Body where
  | empty
  | enableEagerExecution
  | loadModel (task : LoadModel)
  | saveModel (task : SaveModel)
  | loadImage (task : LoadImage)
  | runInference (task : RunInference)
  | runPlugin (task : RunPlugin)
  | applyLayerDelta (task : ApplyLayerDelta)
  | loadExampleDataset (task : LoadExampleDataset)
  | compileModel (task : CompileModel)
  | train (task : Train)
  | checkpointCallback (task : CheckpointCallback)
  | csvLoggerCallback (task : CsvLoggerCallback)
  | custom (task : CustomTask)

/-- What a task is created as: one of the kinds, or a custom task that counts as one of a
kind. -/
inductive TaskType where
  | builtIn (kind : TaskKind)
  | custom (kind : TaskKind)
  deriving DecidableEq, Repr

/-- The unassigned task of a kind; an abstract kind has none. -/
def TaskKind.blank? : TaskKind → Option Body
  | .base => none
  | .empty => some .empty
  | .enableEagerExecution => some .enableEagerExecution
  | .loadModel => some (.loadModel {})
  | .saveModel => some (.saveModel {})
  | .loadImage => some (.loadImage {})
  | .runInference => some (.runInference {})
  | .runPlugin => some (.runPlugin {})
  | .applyLayerDelta => some (.applyLayerDelta {})
  | .loadExampleDataset => some (.loadExampleDataset {})
  | .compileModel => some (.compileModel {})
  | .train => some (.train {})
  | .checkpointCallback => some (.checkpointCallback {})
  | .csvLoggerCallback => some (.csvLoggerCallback {})

namespace TaskType

/-- The kind that stands for the type. -/
def declaredKind : TaskType → TaskKind
  | builtIn kind | custom kind => kind

/-- The unassigned task of a type.  A custom task is of the kind that stands for its type
until it says otherwise. -/
def blank? : TaskType → Option Body
  | builtIn kind => kind.blank?
  | custom kind => if kind.isAbstract then none else some (.custom { declaredKind := kind })

end TaskType

namespace Body

def kind : Body → TaskKind
  | empty => .empty
  | enableEagerExecution => .enableEagerExecution
  | loadModel _ => .loadModel
  | saveModel _ => .saveModel
  | loadImage _ => .loadImage
  | runInference _ => .runInference
  | runPlugin _ => .runPlugin
  | applyLayerDelta _ => .applyLayerDelta
  | loadExampleDataset _ => .loadExampleDataset
  | compileModel _ => .compileModel
  | train _ => .train
  | checkpointCallback _ => .checkpointCallback
  | csvLoggerCallback _ => .csvLoggerCallback
  | custom task => task.reportedKind

/-- What the task was created as, whatever kind it reports. -/
def type : Body → TaskType
  | custom task => .custom task.declaredKind
  | body => .builtIn body.kind

def isBuiltIn : Body → Bool
  | custom _ => false
  | _ => true

def inputs : Body → Reading VariableSet
  | saveModel task => task.inputs
  | runInference task => task.inputs
  | runPlugin task => task.inputs
  | applyLayerDelta task => task.inputs
  | compileModel task => task.inputs
  | train task => task.inputs
  | custom task => task.inputs
  | empty | enableEagerExecution | loadModel _ | loadImage _ | loadExampleDataset _
  | checkpointCallback _ | csvLoggerCallback _ => .ok ∅

def outputs : Body → Reading VariableSet
  | loadModel task => task.outputs
  | loadImage task => task.outputs
  | runInference task => task.outputs
  | runPlugin task => task.outputs
  | applyLayerDelta task => task.outputs
  | loadExampleDataset task => task.outputs
  | checkpointCallback task => task.outputs
  | csvLoggerCallback task => task.outputs
  | custom task => task.outputs
  | empty | enableEagerExecution | saveModel _ | compileModel _ | train _ => .ok ∅

/-- The imports the code needs. -/
def imports : Body → ImportSet
  | enableEagerExecution | loadModel _ | applyLayerDelta _ | loadExampleDataset _
  | compileModel _ | csvLoggerCallback _ => .single .tensorflow
  | loadImage _ => .single .image
  | checkpointCallback _ => CheckpointCallback.imports
  | custom task => task.imports
  | empty | saveModel _ | runInference _ | runPlugin _ | train _ => ∅

/-- The rule of the kind, apart from the validity of the variables. -/
def check (env : Environment) : Body → Reading Bool
  | loadModel task => task.check env
  | saveModel task => task.check env
  | loadImage task => task.check env
  | runPlugin task => task.check env
  | applyLayerDelta task => task.check
  | loadExampleDataset task => task.check
  | train task => .ok task.check
  | checkpointCallback task => task.check env
  | csvLoggerCallback task => task.check env
  | custom task => task.check
  | empty | enableEagerExecution | runInference _ | compileModel _ => .ok true

def code : Body → Reading String
  | empty => .ok ""
  | enableEagerExecution => .ok "tf.compat.v1.enable_eager_execution()"
  | loadModel task => task.code
  | saveModel task => task.code
  | loadImage task => task.code
  | runInference task => task.code
  | runPlugin task => task.code
  | applyLayerDelta task => task.code
  | loadExampleDataset task => task.code
  | compileModel task => task.code
  | train task => task.code
  | checkpointCallback task => task.code
  | csvLoggerCallback task => task.code
  | custom task => task.code

/-- Whether all variables are valid and the rule of the kind holds.  The rule is not
looked at when a variable is invalid. -/
def isConfigured (env : Environment) (body : Body) : Reading Bool := do
  let inputs ← body.inputs
  let outputs ← body.outputs
  if (inputs.items ++ outputs.items).all Variable.isValid then body.check env
  else return false

end Body

theorem Body.kind_of_blank? {kind : TaskKind} {body : Body} (h : kind.blank? = some body) :
    body.kind = kind := by
  cases kind <;> simp [TaskKind.blank?] at h <;> subst h <;> rfl

theorem TaskKind.blank?_eq_none_iff {kind : TaskKind} :
    kind.blank? = none ↔ kind.isAbstract = true := by
  cases kind <;> simp [TaskKind.blank?, TaskKind.isAbstract]

end TaskScript
