/-
Values that describe how a model is built and fitted, and the text each has in a
script.
-/
import TaskScript.Number.Shortest
import TaskScript.Text.Quoted

namespace TaskScript

/-- A layer of a sequential model. -/
structure Layer where
  name : String
  /-- Written as an assignment of the layer's flag when present. -/
  trainable : Option Bool := none
  /-- Expression that builds the layer when the starting model lacks it. -/
  constructor? : Option String := none
  deriving DecidableEq, Repr

structure Adam where
  learningRate : Binary64
  beta1 : Binary64
  beta2 : Binary64
  epsilon : Binary64
  amsgrad : Bool
  deriving DecidableEq, Repr

structure Ftrl where
  learningRate : Binary64
  learningRatePower : Binary64
  initialAccumulatorValue : Binary64
  l1RegularizationStrength : Binary64
  l2RegularizationStrength : Binary64
  l2ShrinkageRegularizationStrength : Binary64
  deriving DecidableEq, Repr

structure RmsProp where
  learningRate : Binary64
  rho : Binary64
  momentum : Binary64
  epsilon : Binary64
  centered : Bool
  deriving DecidableEq, Repr

inductive Optimizer where
  | adam (settings : Adam)
  | ftrl (settings : Ftrl)
  | rmsProp (settings : RmsProp)
  deriving DecidableEq, Repr

namespace Optimizer

/-- Adam with a learning rate of 0.001 and decay rates of 0.9 and 0.999. -/
def standard : Optimizer :=
  .adam
    { learningRate := .ofRatio 1 1000
      beta1 := .ofRatio 9 10
      beta2 := .ofRatio 999 1000
      epsilon := .ofRatio 1 10000000
      amsgrad := false }

/-- The expression that builds the optimizer. -/
def code : Optimizer → String
  | .adam o =>
      call "Adam" [o.learningRate.text, o.beta1.text, o.beta2.text, o.epsilon.text,
        Text.truth o.amsgrad]
  | .ftrl o =>
      call "Ftrl" [o.learningRate.text, o.learningRatePower.text,
        o.initialAccumulatorValue.text, o.l1RegularizationStrength.text,
        o.l2RegularizationStrength.text, "'Ftrl'", o.l2ShrinkageRegularizationStrength.text]
  | .rmsProp o =>
      call "RMSprop" [o.learningRate.text, o.rho.text, o.momentum.text, o.epsilon.text,
        Text.truth o.centered]
where
  call (name : String) (arguments : List String) : String :=
    s!"tf.keras.optimizers.{name}(" ++ ", ".intercalate arguments ++ ")"

end Optimizer

inductive Loss where
  | sparseCategoricalCrossentropy
  deriving DecidableEq, Repr

namespace Loss

def name : Loss → String
  | .sparseCategoricalCrossentropy => "sparse_categorical_crossentropy"

def code (loss : Loss) : String := s!"tf.keras.losses.{loss.name}"

end Loss

/-- How much is printed while a model is fitted. -/
inductive Verbosity where
  | silent
  | progressBar
  | oneLinePerEpoch
  deriving DecidableEq, Repr

def Verbosity.level : Verbosity → Nat
  | .silent => 0
  | .progressBar => 1
  | .oneLinePerEpoch => 2

/-- When a checkpoint is written. -/
inductive SaveFrequency where
  | epoch
  | batches (count : Nat)
  deriving DecidableEq, Repr

def SaveFrequency.code : SaveFrequency → String
  | .epoch => Text.quote "epoch"
  | .batches count => toString count

/-- The datasets that come with the library. -/
inductive Dataset where
  | bostonHousing
  | cifar10
  | cifar100
  | fashionMnist
  | imdb
  | mnist
  | reuters
  deriving DecidableEq, Repr

def Dataset.name : Dataset → String
  | .bostonHousing => "boston_housing"
  | .cifar10 => "cifar10"
  | .cifar100 => "cifar100"
  | .fashionMnist => "fashion_mnist"
  | .imdb => "imdb"
  | .mnist => "mnist"
  | .reuters => "reuters"

end TaskScript
