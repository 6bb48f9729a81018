/-
Tasks that make callbacks for training: one writes checkpoints, the other streams the
results of each epoch to a file.
-/
import TaskScript.Task.Storage

namespace TaskScript

/-- Makes a checkpoint callback, and the directory of its files first. -/
structure CheckpointCallback where
  filePath : Once "file_path" String := {}
  monitor : String := "val_loss"
  verbose : Bool := false
  saveBestOnly : Bool := false
  mode : String := "auto"
  saveWeightsOnly : Bool := false
  saveFrequency : SaveFrequency := .epoch
  loadWeightsOnRestart : Bool := false
  output : Once "output" Variable := {}
  deriving DecidableEq, Repr

namespace CheckpointCallback

def modes : List String := ["auto", "min", "max"]

def outputs (task : CheckpointCallback) : Reading VariableSet := do
  return .single (← task.output.read)

def imports : ImportSet :=
  .ofList [{ source := "errno" }, { source := "os" },
    { source := "pathlib", identifier? := some "Path" }, .tensorflow]

/-- The path is looked at only when the mode is a known one. -/
def check (env : Environment) (task : CheckpointCallback) : Reading Bool := do
  if task.mode ∈ modes then return env.acceptsPath (← task.filePath.read)
  else return false

def code (task : CheckpointCallback) : Reading String := do
  let path := Text.quote (← task.filePath.read)
  let output ← task.output.read
  return s!"try:\n    os.makedirs(Path({path}).parent)\nexcept OSError as err:\n" ++
    "    if err.errno != errno.EEXIST:\n        raise\n\n" ++
    s!"{output.name} = tf.keras.callbacks.ModelCheckpoint(\n    {path},\n" ++
    s!"    monitor={Text.quote task.monitor},\n    verbose={task.verbose.toNat},\n" ++
    s!"    save_best_only={Text.truth task.saveBestOnly},\n" ++
    s!"    save_weights_only={Text.truth task.saveWeightsOnly},\n" ++
    s!"    mode={Text.quote task.mode},\n    save_freq={task.saveFrequency.code},\n" ++
    s!"    load_weights_on_restart={Text.truth task.loadWeightsOnRestart}\n)"

end CheckpointCallback

structure CsvLoggerCallback where
  logFilePath : Once "log_file_path" String := {}
  separator : Char := ','
  append : Bool := false
  output : Once "output" Variable := {}
  deriving DecidableEq, Repr

namespace CsvLoggerCallback

def outputs (task : CsvLoggerCallback) : Reading VariableSet := do
  return .single (← task.output.read)

def check (env : Environment) (task : CsvLoggerCallback) : Reading Bool := do
  return env.acceptsPath (← task.logFilePath.read)

def code (task : CsvLoggerCallback) : Reading String := do
  let output ← task.output.read
  let path ← task.logFilePath.read
  return s!"{output.name} = tf.keras.callbacks.CSVLogger(\n    {Text.quote path},\n" ++
    s!"    separator={Text.quote task.separator.toString},\n" ++
    s!"    append={Text.truth task.append}\n)"

end CsvLoggerCallback

end TaskScript
