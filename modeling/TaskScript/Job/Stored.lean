/-
The form in which jobs are stored: a tagged record, whose settings have defaults.
-/
import TaskScript.Job.Basic
import TaskScript.Records

namespace TaskScript

namespace Job

open Json in
def pluginCall? (value : Json) : Option PluginCall := do
  let fields ← value.fields? ["plugin", "function"]
  match fields with
  | [plugin, function] =>
      return { plugin := ← need? text? plugin, function := ← need? text? function }
  | _ => none

open Json in
def trainingPlan? (mode : Mode) (value : Json) : Option TrainingPlan := do
  let fields ← value.fields?
    ["optimizer", "loss", "metrics", "epochs", "batch_size", "checkpoint"]
  let plain : TrainingPlan := {}
  match fields with
  | [optimizer, loss, metrics, epochs, batchSize, checkpoint] =>
      return {
        optimizer := ← default? (Optimizer.ofJson? mode) plain.optimizer optimizer
        loss := ← default? (Loss.ofJson? mode) plain.loss loss
        metrics := ← default? (list? text?) plain.metrics metrics
        epochs := ← default? word? plain.epochs epochs
        batchSize := ← default? (optional? word?) plain.batchSize batchSize
        checkpoint := ← default? (optional? text?) plain.checkpoint checkpoint }
  | _ => none

open Json in
def inference? (value : Json) : Option InferenceJob := do
  let fields ← value.fields? ["name", "model", "image", "preprocess", "postprocess"]
  match fields with
  | [name, model, image, preprocess, postprocess] =>
      return {
        name := ← need? text? name
        model := ← need? text? model
        image := ← need? text? image
        preprocess := ← default? (optional? pluginCall?) none preprocess
        postprocess := ← default? (optional? pluginCall?) none postprocess }
  | _ => none

open Json in
def retrain? (mode : Mode) (value : Json) : Option RetrainJob := do
  let fields ← value.fields? ["name", "model", "layers", "dataset", "training", "save_to"]
  match fields with
  | [name, model, layers, dataset, training, saveTo] =>
      return {
        name := ← need? text? name
        model := ← need? text? model
        layers := ← need? (list? Layer.ofJson?) layers
        dataset := ← need? (Dataset.ofJson? mode) dataset
        training := ← default? (trainingPlan? mode) {} training
        saveTo := ← need? text? saveTo }
  | _ => none

/-- A job is tagged, so what is inside it is read from a held value. -/
def ofJson? (value : Json) : Option Job := do
  let (variant, record) ← value.tagged? .direct "kind" ["inference", "retrain"]
  match variant with
  | 0 => (inference? record).map .inference
  | _ => (retrain? .held record).map .retrain

end Job

end TaskScript
