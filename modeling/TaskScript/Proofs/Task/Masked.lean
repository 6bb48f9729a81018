/-
Tasks with every text masked: names, paths and all other strings that a task was given.  The
code of the masked task has the same pieces, with their texts masked, so the texts decide
nothing about it but themselves.
-/
import Mathlib.Data.List.Basic
import TaskScript.Proofs.Task.Template

namespace TaskScript

open Piece

/-- A variable that stands for any other. -/
def Variable.mask : Variable := ⟨"*", true⟩

def Layer.masked (layer : Layer) : Layer :=
  { layer with name := "*", constructor? := layer.constructor?.map fun _ => "*" }

def Piece.masked : Piece → Piece
  | fixed text => fixed text
  | name _ => name .mask
  | quoted _ => quoted "*"
  | verbatim _ => verbatim "*"

namespace Once

variable {label : String} {α β : Type}

def map (f : α → β) (field : Once label α) : Once label β := ⟨field.value?.map f⟩

/-- The field with its text masked. -/
def maskedText (field : Once label String) : Once label String := field.map fun _ => "*"

/-- The field with its variable masked. -/
def maskedSlot (field : Once label Variable) : Once label Variable := field.map fun _ => .mask

end Once

def Train.masked (task : Train) : Train :=
  { task with
    modelInput := task.modelInput.maskedSlot
    trainInput := task.trainInput.maskedSlot
    trainOutput := task.trainOutput.maskedSlot
    validationInput := task.validationInput.map fun _ => .mask
    validationOutput := task.validationOutput.map fun _ => .mask
    callbacks := task.callbacks.map fun _ => .mask }

namespace Body

/-- The task without its texts.  Which fields are assigned, how long lists are and all numbers
and flags stay; a custom task is left alone. -/
def masked : Body → Body
  | empty => empty
  | enableEagerExecution => enableEagerExecution
  | loadModel task =>
      loadModel
        { modelPath := task.modelPath.maskedText, modelOutput := task.modelOutput.maskedSlot }
  | saveModel task =>
      saveModel { modelInput := task.modelInput.maskedSlot, modelPath := task.modelPath.maskedText }
  | loadImage task =>
      loadImage
        { imagePath := task.imagePath.maskedText, imageOutput := task.imageOutput.maskedSlot }
  | runInference task =>
      runInference
        { model := task.model.maskedSlot
          input := task.input.maskedSlot
          output := task.output.maskedSlot
          steps := task.steps.map fun _ => .mask }
  | runPlugin task =>
      runPlugin
        { functionName := task.functionName.maskedText
          functionDefinition := task.functionDefinition.maskedText
          functionInputs := task.functionInputs.map (List.map fun _ => .mask)
          functionOutputs := task.functionOutputs.map (List.map fun _ => .mask) }
  | applyLayerDelta task =>
      applyLayerDelta
        { modelInput := task.modelInput.maskedSlot
          currentLayers := task.currentLayers.map (List.map Layer.masked)
          newLayers := task.newLayers.map (List.map Layer.masked)
          newModelOutput := task.newModelOutput.maskedSlot }
  | loadExampleDataset task =>
      loadExampleDataset
        { task with
          xTrainOutput := task.xTrainOutput.maskedSlot
          yTrainOutput := task.yTrainOutput.maskedSlot
          xTestOutput := task.xTestOutput.maskedSlot
          yTestOutput := task.yTestOutput.maskedSlot }
  | compileModel task =>
      compileModel
        { task with
          modelInput := task.modelInput.maskedSlot
          metrics := task.metrics.map fun _ => "*" }
  | train task => train task.masked
  | checkpointCallback task =>
      checkpointCallback
        { task with
          filePath := task.filePath.maskedText
          monitor := "*"
          mode := "*"
          output := task.output.maskedSlot }
  | csvLoggerCallback task =>
      csvLoggerCallback
        { task with
          logFilePath := task.logFilePath.maskedText
          separator := '*'
          output := task.output.maskedSlot }
  | custom task => custom task

end Body

/-- The second answer is the first with the texts of its pieces masked. -/
def Masks (pieces masked : Reading (List Piece)) : Prop :=
  masked = pieces.map (List.map Piece.masked)

namespace Masks

variable {label : String} {α β : Type}

theorem ok {pieces masked : List Piece} (h : masked = pieces.map Piece.masked) :
    Masks (.ok pieces) (.ok masked) :=
  congrArg Except.ok h

theorem bind {answer : Reading α} {pieces masked : α → Reading (List Piece)}
    (h : ∀ value, Masks (pieces value) (masked value)) :
    Masks (answer >>= pieces) (answer >>= masked) := by
  cases answer with
  | error error => rfl
  | ok value => exact h value

theorem read_bind {field : Once label α} {f : α → β} {pieces : α → Reading (List Piece)}
    {masked : β → Reading (List Piece)}
    (h : ∀ value, field.value? = some value → Masks (pieces value) (masked (f value))) :
    Masks (field.read >>= pieces) ((field.map f).read >>= masked) := by
  obtain ⟨_ | value⟩ := field
  · rfl
  · exact h value rfl

end Masks

namespace Piece

@[simp] theorem map_masked_between (separator : String) (parts : List (List Piece)) :
    (between separator parts).map Piece.masked =
      between separator (parts.map (List.map Piece.masked)) := by
  induction parts with
  | nil => rfl
  | cons part rest ih =>
      cases rest with
      | nil => simp
      | cons next rest => simp_all [between_cons_cons, Piece.masked]

@[simp] theorem map_masked_listed (items : List Variable) :
    (listed items).map Piece.masked = listed (items.map fun _ => .mask) := by
  simp [listed, Function.comp_def, Piece.masked]

end Piece

namespace ApplyLayerDelta

theorem map_masked_sequencePieces (layers : List (List Piece)) :
    (sequencePieces layers).map Piece.masked =
      sequencePieces (layers.map (List.map Piece.masked)) := by
  unfold sequencePieces
  rw [List.length_map]
  split <;> simp [Piece.masked]

theorem map_masked_flagPieces (model : Variable) (layer : Layer) :
    (flagPieces model layer).map Piece.masked = flagPieces .mask layer.masked := by
  unfold flagPieces Layer.masked
  cases layer.trainable <;> rfl

/-- A layer that the starting model has is copied. -/
theorem filterMap_source? {current new : List Layer}
    (hknown : ∀ layer ∈ new, ∃ known ∈ current, known.name = layer.name) :
    new.filterMap (source? current) = new.map fun layer => .copied layer.name := by
  rw [← List.filterMap_eq_map]
  apply List.filterMap_congr
  intro layer hlayer
  have hany : current.any (·.name == layer.name) = true := by simpa using hknown layer hlayer
  rw [source?, if_pos hany]
  rfl

end ApplyLayerDelta

theorem Train.map_masked_validationPieces (task : Train) :
    task.validationPieces.map Piece.masked = task.masked.validationPieces := by
  unfold validationPieces masked
  cases task.validationInput <;> cases task.validationOutput <;> rfl

namespace Body

/-- The layers of a new model are all taken from the starting model. -/
def Copies : Body → Prop
  | applyLayerDelta task =>
      ∀ new ∈ task.newLayers.value?, ∀ current ∈ task.currentLayers.value?,
        ∀ layer ∈ new, ∃ known ∈ current, known.name = layer.name
  | _ => True

theorem masks_pieces {body : Body} (hbuiltIn : body.isBuiltIn = true) (hcopies : body.Copies) :
    Masks body.pieces body.masked.pieces := by
  cases body with
  | empty | enableEagerExecution => rfl
  | loadModel task | saveModel task | loadImage task | csvLoggerCallback task
  | checkpointCallback task => exact .read_bind fun _ _ => .read_bind fun _ _ => .ok rfl
  | compileModel task =>
      refine .read_bind fun _ _ => .bind fun _ => .bind fun _ => .ok ?_
      simp [Piece.masked, Function.comp_def]
  | runInference task =>
      refine .read_bind fun _ _ => .read_bind fun _ _ => .read_bind fun _ _ => .ok ?_
      cases task.steps <;> rfl
  | runPlugin task =>
      refine .read_bind fun outputs _ => .read_bind fun _ _ => .read_bind fun _ _ =>
        .read_bind fun _ _ => .ok ?_
      cases outputs <;> simp [Piece.masked, RunPlugin.targetPieces]
  | applyLayerDelta task =>
      refine .read_bind fun _ _ => .read_bind fun _ _ => .read_bind fun new hnew =>
        .read_bind fun current hcurrent => .ok ?_
      have hknown := hcopies new hnew current hcurrent
      have hmasked : ∀ layer ∈ new.map Layer.masked,
          ∃ known ∈ current.map Layer.masked, known.name = layer.name := by
        intro layer hlayer
        obtain ⟨original, horiginal, rfl⟩ := List.mem_map.mp hlayer
        obtain ⟨known, hmem, _⟩ := hknown original horiginal
        exact ⟨known.masked, List.mem_map_of_mem hmem, rfl⟩
      simp only [ApplyLayerDelta.filterMap_source? hknown,
        ApplyLayerDelta.filterMap_source? hmasked, List.map_append, List.map_flatten,
        ApplyLayerDelta.map_masked_sequencePieces, List.map_map, Function.comp_def,
        ApplyLayerDelta.map_masked_flagPieces]
      rfl
  | loadExampleDataset task =>
      refine .read_bind fun _ _ => .read_bind fun _ _ => .read_bind fun _ _ =>
        .read_bind fun _ _ => .bind fun _ => .ok rfl
  | train task =>
      refine .read_bind fun _ _ => .read_bind fun _ _ => .read_bind fun _ _ => .ok ?_
      simp only [List.map_append, map_masked_listed, Train.map_masked_validationPieces]
      rfl
  | custom task => cases hbuiltIn

end Body

end TaskScript
