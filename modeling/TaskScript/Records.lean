/-
The forms in which the values of a script are stored.
-/
import TaskScript.Import
import TaskScript.Plugin
import TaskScript.Training
import TaskScript.Json.Decode
import TaskScript.Json.Parse

namespace TaskScript

open Json

/-- A model as it is stored, with the layers it is known to have. -/
structure ModelDescription where
  name : String
  path : String
  layers : List Layer := []
  deriving DecidableEq, Repr

def Import.ofJson? (value : Json) : Option Import := do
  (Import.parse (← value.text?)).toOption

def Loss.ofJson? (mode : Mode) : Json → Option Loss :=
  choice? mode [("sparse_categorical_crossentropy", .sparseCategoricalCrossentropy)]

def Dataset.ofJson? (mode : Mode) : Json → Option Dataset :=
  choice? mode
    [("boston_housing", .bostonHousing), ("cifar10", .cifar10), ("cifar100", .cifar100),
      ("fashion_mnist", .fashionMnist), ("imdb", .imdb), ("mnist", .mnist), ("reuters", .reuters)]

def Verbosity.storedName : Verbosity → String
  | .silent => "silent"
  | .progressBar => "progress_bar"
  | .oneLinePerEpoch => "one_line_per_epoch"

def Verbosity.ofJson? (mode : Mode) : Json → Option Verbosity :=
  choice? mode
    ([Verbosity.silent, .progressBar, .oneLinePerEpoch].map fun level => (level.storedName, level))

def SaveFrequency.ofJson? (mode : Mode) : Json → Option SaveFrequency
  | .object [(some "batches", count)] => count.word?.map .batches
  | value => choice? mode [("epoch", .epoch)] value

def Layer.ofJson? (value : Json) : Option Layer := do
  match ← value.fields? ["name", "trainable", "constructor"] with
  | [name, trainable, constructor?] =>
      return {
        name := ← need? text? name
        trainable := ← default? (optional? flag?) none trainable
        constructor? := ← default? (optional? text?) none constructor? }
  | _ => none

def Plugin.ofJson? (value : Json) : Option Plugin := do
  match ← value.fields? ["name", "contents"] with
  | [name, contents] => return { name := ← need? text? name, contents := ← need? text? contents }
  | _ => none

def ModelDescription.ofJson? (value : Json) : Option ModelDescription := do
  match ← value.fields? ["name", "path", "layers"] with
  | [name, path, layers] =>
      return {
        name := ← need? text? name
        path := ← need? text? path
        layers := ← default? (list? Layer.ofJson?) [] layers }
  | _ => none

namespace Optimizer

def adam? (value : Json) : Option Adam := do
  match ← value.fields? ["learning_rate", "beta_1", "beta_2", "epsilon", "amsgrad"] with
  | [learningRate, beta1, beta2, epsilon, amsgrad] =>
      return {
        learningRate := ← need? binary64? learningRate
        beta1 := ← need? binary64? beta1
        beta2 := ← need? binary64? beta2
        epsilon := ← need? binary64? epsilon
        amsgrad := ← need? flag? amsgrad }
  | _ => none

def ftrl? (value : Json) : Option Ftrl := do
  match ← value.fields? ["learning_rate", "learning_rate_power", "initial_accumulator_value",
    "l1_regularization_strength", "l2_regularization_strength",
    "l2_shrinkage_regularization_strength"] with
  | [learningRate, power, accumulator, l1, l2, shrinkage] =>
      return {
        learningRate := ← need? binary64? learningRate
        learningRatePower := ← need? binary64? power
        initialAccumulatorValue := ← need? binary64? accumulator
        l1RegularizationStrength := ← need? binary64? l1
        l2RegularizationStrength := ← need? binary64? l2
        l2ShrinkageRegularizationStrength := ← need? binary64? shrinkage }
  | _ => none

def rmsProp? (value : Json) : Option RmsProp := do
  match ← value.fields? ["learning_rate", "rho", "momentum", "epsilon", "centered"] with
  | [learningRate, rho, momentum, epsilon, centered] =>
      return {
        learningRate := ← need? binary64? learningRate
        rho := ← need? binary64? rho
        momentum := ← need? binary64? momentum
        epsilon := ← need? binary64? epsilon
        centered := ← need? flag? centered }
  | _ => none

def ofJson? (mode : Mode) (value : Json) : Option Optimizer := do
  let (variant, record) ← value.tagged? mode "type" ["adam", "ftrl", "rmsprop"]
  match variant with
  | 0 => (adam? record).map .adam
  | 1 => (ftrl? record).map .ftrl
  | _ => (rmsProp? record).map .rmsProp

end Optimizer

end TaskScript
