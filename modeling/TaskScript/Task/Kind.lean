/-
The kinds of tasks.  `Base` stands for all of them and has no tasks of its own.
-/
namespace TaskScript

inductive TaskKind where
  | base
  | empty
  | enableEagerExecution
  | loadModel
  | saveModel
  | loadImage
  | runInference
  | runPlugin
  | applyLayerDelta
  | loadExampleDataset
  | compileModel
  | train
  | checkpointCallback
  | csvLoggerCallback
  deriving DecidableEq, Repr

namespace TaskKind

def all : List TaskKind :=
  [base, empty, enableEagerExecution, loadModel, saveModel, loadImage, runInference, runPlugin,
    applyLayerDelta, loadExampleDataset, compileModel, train, checkpointCallback,
    csvLoggerCallback]

def isAbstract (kind : TaskKind) : Bool := kind = base

def name : TaskKind → String
  | base => "Base"
  | empty => "Empty"
  | enableEagerExecution => "EnableEagerExecution"
  | loadModel => "LoadModel"
  | saveModel => "SaveModel"
  | loadImage => "LoadImage"
  | runInference => "RunInference"
  | runPlugin => "RunPlugin"
  | applyLayerDelta => "ApplyLayerDelta"
  | loadExampleDataset => "LoadExampleDataset"
  | compileModel => "CompileModel"
  | train => "Train"
  | checkpointCallback => "CheckpointCallback"
  | csvLoggerCallback => "CsvLoggerCallback"

theorem mem_all (kind : TaskKind) : kind ∈ all := by
  cases kind <;> decide

theorem all_nodup : all.Nodup := by decide

end TaskKind

end TaskScript
