/-
Jobs: what a script is to do.  An inference job runs a model on one image; a retraining
job changes the layers of a model, fits it to an example dataset and saves it.
-/
import TaskScript.Training

namespace TaskScript

/-- A function taken from a plugin. -/
structure PluginCall where
  plugin : String
  function : String
  deriving DecidableEq, Repr

/-- How a retrained model is fitted. -/
structure TrainingPlan where
  optimizer : Optimizer := .standard
  loss : Loss := .sparseCategoricalCrossentropy
  metrics : List String := ["accuracy"]
  epochs : Nat := 1
  batchSize : Option Nat := none
  /-- Path of the checkpoint files. -/
  checkpoint : Option String := none
  deriving DecidableEq, Repr

structure InferenceJob where
  name : String
  model : String
  image : String
  preprocess : Option PluginCall := none
  postprocess : Option PluginCall := none
  deriving DecidableEq, Repr

structure RetrainJob where
  name : String
  model : String
  layers : List Layer
  dataset : Dataset
  training : TrainingPlan := {}
  saveTo : String
  deriving DecidableEq, Repr

inductive Job where
  | inference (job : InferenceJob)
  | retrain (job : RetrainJob)
  deriving DecidableEq, Repr

namespace Job

def name : Job → String
  | inference job => job.name
  | retrain job => job.name

def model : Job → String
  | inference job => job.model
  | retrain job => job.model

end Job

end TaskScript
