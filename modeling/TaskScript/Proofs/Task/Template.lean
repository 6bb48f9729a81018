/-
The code of a task in pieces, where the names of variables stand apart from everything
else that is written.  The code of each kind is the text of its pieces, and the variables
among them are variables of the fields of the task.
-/
import TaskScript.Proofs.Task.Lacking

namespace TaskScript

/-- A piece of the code of a task. -/
inductive Piece where
  /-- Text of the kind, with its numbers and flags. -/
  | fixed (text : String)
  /-- A variable by its name, without quotes. -/
  | name (slot : Variable)
  /-- A string as a literal. -/
  | quoted (text : String)
  /-- Code that the task was given. -/
  | verbatim (text : String)

namespace Piece

@[simp] def text : Piece → String
  | fixed text => text
  | name slot => slot.name
  | quoted text => Text.quote text
  | verbatim text => text

def render (pieces : List Piece) : String := String.join (pieces.map text)

/-- The variables that the pieces name, in the order written. -/
def slots (pieces : List Piece) : List Variable :=
  pieces.filterMap fun
    | name slot => some slot
    | fixed _ | quoted _ | verbatim _ => none

variable {pieces more : List Piece} {slot : Variable} {shown : String}

@[simp] theorem render_nil : render [] = "" := rfl

@[simp] theorem render_cons {piece : Piece} :
    render (piece :: pieces) = piece.text ++ render pieces :=
  String.join_cons

@[simp] theorem render_append : render (pieces ++ more) = render pieces ++ render more := by
  simp [render]

@[simp] theorem render_flatten {parts : List (List Piece)} :
    render parts.flatten = String.join (parts.map render) := by
  induction parts with
  | nil => rfl
  | cons part rest ih => simp [ih]

@[simp] theorem slots_nil : slots [] = [] := rfl

@[simp] theorem slots_fixed : slots (fixed shown :: pieces) = slots pieces := rfl

@[simp] theorem slots_name : slots (name slot :: pieces) = slot :: slots pieces := rfl

@[simp] theorem slots_quoted : slots (quoted shown :: pieces) = slots pieces := rfl

@[simp] theorem slots_verbatim : slots (verbatim shown :: pieces) = slots pieces := rfl

@[simp] theorem slots_append : slots (pieces ++ more) = slots pieces ++ slots more :=
  List.filterMap_append

@[simp] theorem slots_flatten {parts : List (List Piece)} :
    slots parts.flatten = parts.flatMap slots :=
  List.filterMap_flatten

theorem mem_slots : slot ∈ slots pieces ↔ name slot ∈ pieces := by
  unfold slots
  rw [List.mem_filterMap]
  constructor
  · rintro ⟨piece, hpiece, h⟩
    cases piece with
    | name other => exact Option.some.inj h ▸ hpiece
    | fixed | quoted | verbatim => cases h
  · exact fun h => ⟨name slot, h, rfl⟩

/-- The parts with a separator between them. -/
def between (separator : String) (parts : List (List Piece)) : List Piece :=
  [fixed separator].intercalate parts

theorem between_cons_cons {separator : String} {part next : List Piece}
    {rest : List (List Piece)} :
    between separator (part :: next :: rest) =
      part ++ fixed separator :: between separator (next :: rest) := by
  simp [between, List.intercalate_cons_cons]

@[simp] theorem between_singleton {separator : String} {part : List Piece} :
    between separator [part] = part :=
  List.intercalate_singleton

@[simp] theorem render_between {separator : String} {parts : List (List Piece)} :
    render (between separator parts) = separator.intercalate (parts.map render) := by
  induction parts with
  | nil => rfl
  | cons part rest ih =>
      cases rest with
      | nil => simp
      | cons next rest => simp [between_cons_cons, ih, String.append_assoc]

@[simp] theorem slots_between {separator : String} {parts : List (List Piece)} :
    slots (between separator parts) = parts.flatMap slots := by
  induction parts with
  | nil => rfl
  | cons part rest ih =>
      cases rest with
      | nil => simp
      | cons next rest => simp [between_cons_cons, ih]

/-- The names of variables between commas. -/
def listed (items : List Variable) : List Piece := between ", " (items.map fun slot => [name slot])

@[simp] theorem render_listed {items : List Variable} :
    render (listed items) = Variable.listed items := by
  simp [listed, Variable.listed, Function.comp_def]

@[simp] theorem slots_listed {items : List Variable} : slots (listed items) = items := by
  simp [listed, List.flatMap_map]

end Piece

/-- The answer is the text of the pieces, or lacks the same field. -/
def Prints (code : Reading String) (pieces : Reading (List Piece)) : Prop :=
  code = pieces.map Piece.render

namespace Prints

theorem ok {code : String} {pieces : List Piece} (h : code = Piece.render pieces) :
    Prints (.ok code) (.ok pieces) :=
  congrArg Except.ok h

theorem bind {α : Type} {answer : Reading α} {code : α → Reading String}
    {pieces : α → Reading (List Piece)} (h : ∀ value, Prints (code value) (pieces value)) :
    Prints (answer >>= code) (answer >>= pieces) := by
  cases answer with
  | error error => rfl
  | ok value => exact h value

theorem exists_pieces {code : Reading String} {pieces : Reading (List Piece)} {text : String}
    (hprints : Prints code pieces) (hcode : code = .ok text) :
    ∃ written, pieces = .ok written ∧ text = Piece.render written := by
  cases pieces with
  | error error =>
      rw [hprints] at hcode
      cases hcode
  | ok written =>
      rw [hprints] at hcode
      exact ⟨written, rfl, (Except.ok.inj hcode).symm⟩

end Prints

/-- The pieces, if they are given, name only variables among the items. -/
def NamesOnly (pieces : Reading (List Piece)) (items : List Variable) : Prop :=
  ∀ written, pieces = .ok written → ∀ slot ∈ Piece.slots written, slot ∈ items

namespace NamesOnly

variable {items : List Variable}

theorem ok {pieces : List Piece} (h : ∀ slot ∈ Piece.slots pieces, slot ∈ items) :
    NamesOnly (.ok pieces) items := by
  rintro _ ⟨⟩
  exact h

theorem read_bind {α : Type} {label : String} {field : Once label α}
    {pieces : α → Reading (List Piece)}
    (h : ∀ value, field.value? = some value → NamesOnly (pieces value) items) :
    NamesOnly (field.read >>= pieces) items := by
  intro written hwritten
  obtain ⟨value, hvalue, hpieces⟩ := Reading.bind_eq_ok_iff.mp hwritten
  exact h value (Reading.read_eq_ok_iff.mp hvalue) written hpieces

end NamesOnly

open Piece

def LoadModel.pieces (task : LoadModel) : Reading (List Piece) := do
  let model ← task.modelOutput.read
  let path ← task.modelPath.read
  return [name model, fixed " = tf.keras.models.load_model(", quoted path, fixed ")"]

def SaveModel.pieces (task : SaveModel) : Reading (List Piece) := do
  let model ← task.modelInput.read
  let path ← task.modelPath.read
  return [name model, fixed ".save(", quoted path, fixed ")"]

def LoadImage.pieces (task : LoadImage) : Reading (List Piece) := do
  let image ← task.imageOutput.read
  let path ← task.imagePath.read
  return [name image, fixed " = Image.open(", quoted path, fixed ")"]

def LoadExampleDataset.pieces (task : LoadExampleDataset) : Reading (List Piece) := do
  let xTrain ← task.xTrainOutput.read
  let yTrain ← task.yTrainOutput.read
  let xTest ← task.xTestOutput.read
  let yTest ← task.yTestOutput.read
  let dataset ← task.dataset.read
  return [fixed "(", name xTrain, fixed ", ", name yTrain, fixed "), (", name xTest, fixed ", ",
    name yTest, fixed ") = ", fixed "tf.keras.datasets.", fixed dataset.name, fixed ".load_data()"]

def RunInference.pieces (task : RunInference) : Reading (List Piece) := do
  let steps :=
    match task.steps with
    | some steps => [fixed ", steps=", name steps]
    | none => []
  let output ← task.output.read
  let model ← task.model.read
  let input ← task.input.read
  return [name output, fixed " = ", name model, fixed ".predict(", name input] ++ steps ++
    [fixed ")"]

/-- The left side of an assignment to a tuple, unless there is nothing to assign. -/
def RunPlugin.targetPieces (outputs : List Variable) : List Piece :=
  if outputs.isEmpty then [] else [fixed "("] ++ listed outputs ++ [fixed ") = "]

def RunPlugin.pieces (task : RunPlugin) : Reading (List Piece) := do
  let outputs ← task.functionOutputs.read
  let definition ← task.functionDefinition.read
  let function ← task.functionName.read
  let inputs ← task.functionInputs.read
  return [fixed "\n\n", verbatim definition, fixed "\n\n\n"] ++ targetPieces outputs ++
    [verbatim function, fixed "("] ++ listed inputs ++ [fixed ")"]

namespace ApplyLayerDelta

def Source.pieces (model : Variable) : Source → List Piece
  | .copied layer => [name model, fixed ".get_layer(", quoted layer, fixed ")"]
  | .built expression => [verbatim expression]

def sequencePieces (layers : List (List Piece)) : List Piece :=
  if layers.length ≤ 1 then [fixed "["] ++ layers.flatten ++ [fixed "]"]
  else [fixed "[\n    "] ++ between ",\n    " layers ++ [fixed "\n]"]

def flagPieces (model : Variable) (layer : Layer) : List Piece :=
  match layer.trainable with
  | none => []
  | some flag =>
      [fixed "\n", name model, fixed ".get_layer(", quoted layer.name, fixed ").trainable = ",
        fixed (Text.truth flag)]

def pieces (task : ApplyLayerDelta) : Reading (List Piece) := do
  let input ← task.modelInput.read
  let output ← task.newModelOutput.read
  let new ← task.newLayers.read
  let current ← task.currentLayers.read
  let layers := (new.filterMap (source? current)).map (·.pieces input)
  return [name output, fixed " = tf.keras.Sequential("] ++ sequencePieces layers ++ [fixed ")"] ++
    (new.map (flagPieces output)).flatten

end ApplyLayerDelta

def CompileModel.pieces (task : CompileModel) : Reading (List Piece) := do
  let metrics := between ", " (task.metrics.map fun metric => [quoted metric])
  let model ← task.modelInput.read
  let optimizer ← task.optimizer.read
  let loss ← task.loss.read
  return [name model, fixed ".compile(\n    optimizer=", fixed optimizer.code,
    fixed ",\n    loss=", fixed loss.code, fixed ",\n", fixed "    metrics=["] ++ metrics ++
    [fixed "]\n)"]

namespace Train

def validationPieces (task : Train) : List Piece :=
  match task.validationInput, task.validationOutput with
  | some input, some output =>
      [fixed "\n    validation_data=(", name input, fixed ", ", name output, fixed "),"]
  | _, _ => []

def pieces (task : Train) : Reading (List Piece) := do
  let batchSize :=
    match task.batchSize with
    | some size => toString size
    | none => "None"
  let model ← task.modelInput.read
  let input ← task.trainInput.read
  let output ← task.trainOutput.read
  return [name model, fixed ".fit(\n    ", name input, fixed ",\n    ", name output, fixed ",\n",
    fixed "    batch_size=", fixed batchSize, fixed ",\n    epochs=", fixed (toString task.epochs),
    fixed ",\n", fixed "    verbose=", fixed (toString task.verbosity.level),
    fixed ",\n    callbacks=["] ++ listed task.callbacks ++ [fixed "],\n",
    fixed "    validation_split=", fixed task.validationSplit.text, fixed ","] ++
    task.validationPieces ++ [fixed "\n", fixed "    shuffle=", fixed (Text.truth task.shuffle),
    fixed "\n)"]

end Train

def CheckpointCallback.pieces (task : CheckpointCallback) : Reading (List Piece) := do
  let path := quoted (← task.filePath.read)
  let output ← task.output.read
  return [fixed "try:\n    os.makedirs(Path(", path, fixed
      ").parent)\nexcept OSError as err:\n    if err.errno != errno.EEXIST:\n        raise\n\n",
    name output, fixed " = tf.keras.callbacks.ModelCheckpoint(\n    ", path, fixed ",\n",
    fixed "    monitor=", quoted task.monitor, fixed ",\n    verbose=",
    fixed (toString task.verbose.toNat), fixed ",\n", fixed "    save_best_only=",
    fixed (Text.truth task.saveBestOnly), fixed ",\n", fixed "    save_weights_only=",
    fixed (Text.truth task.saveWeightsOnly), fixed ",\n", fixed "    mode=", quoted task.mode,
    fixed ",\n    save_freq=", fixed task.saveFrequency.code, fixed ",\n",
    fixed "    load_weights_on_restart=", fixed (Text.truth task.loadWeightsOnRestart),
    fixed "\n)"]

def CsvLoggerCallback.pieces (task : CsvLoggerCallback) : Reading (List Piece) := do
  let output ← task.output.read
  let path ← task.logFilePath.read
  return [name output, fixed " = tf.keras.callbacks.CSVLogger(\n    ", quoted path,
    fixed ",\n", fixed "    separator=", quoted task.separator.toString, fixed ",\n",
    fixed "    append=", fixed (Text.truth task.append), fixed "\n)"]

namespace ApplyLayerDelta

@[simp] theorem render_pieces {model : Variable} {source : Source} :
    render (source.pieces model) = source.code model := by
  cases source <;> simp [Source.pieces, Source.code, ToString.toString, String.append_assoc]

theorem eq_of_mem_slots_pieces {model slot : Variable} {source : Source}
    (hslot : slot ∈ slots (source.pieces model)) : slot = model := by
  cases source with
  | copied layer => simpa [Source.pieces] using hslot
  | built expression => simp [Source.pieces] at hslot

@[simp] theorem render_sequencePieces {layers : List (List Piece)} :
    render (sequencePieces layers) = sequence (layers.map render) := by
  unfold sequencePieces sequence
  rw [List.length_map]
  split <;> simp [String.append_assoc]

@[simp] theorem slots_sequencePieces {layers : List (List Piece)} :
    slots (sequencePieces layers) = layers.flatMap slots := by
  unfold sequencePieces
  split <;> simp

@[simp] theorem render_flagPieces {model : Variable} {layer : Layer} :
    render (flagPieces model layer) = flagLine model layer := by
  unfold flagPieces flagLine
  cases layer.trainable <;> simp [ToString.toString, String.append_assoc]

theorem eq_of_mem_slots_flagPieces {model slot : Variable} {layer : Layer}
    (hslot : slot ∈ slots (flagPieces model layer)) : slot = model := by
  unfold flagPieces at hslot
  split at hslot
  · cases hslot
  · simpa using hslot

end ApplyLayerDelta

@[simp] theorem RunPlugin.slots_targetPieces {outputs : List Variable} :
    slots (targetPieces outputs) = outputs := by
  cases outputs <;> simp [targetPieces]

namespace Train

@[simp] theorem render_validationPieces {task : Train} :
    render task.validationPieces = task.validationLine := by
  unfold validationPieces validationLine
  cases task.validationInput <;> cases task.validationOutput <;>
    simp [ToString.toString, String.append_assoc]

theorem mem_of_mem_slots_validationPieces {task : Train} {slot : Variable}
    (hslot : slot ∈ slots task.validationPieces) :
    slot ∈ task.validationInput.toList ++ task.validationOutput.toList := by
  unfold validationPieces at hslot
  split at hslot
  · rename_i hinput houtput
    simpa [hinput, houtput] using hslot
  · cases hslot

end Train

namespace Body

/-- What the code of a task is made of. -/
def pieces : Body → Reading (List Piece)
  | empty => .ok []
  | enableEagerExecution => .ok [fixed "tf.compat.v1.enable_eager_execution()"]
  | loadModel task => task.pieces
  | saveModel task => task.pieces
  | loadImage task => task.pieces
  | runInference task => task.pieces
  | runPlugin task => task.pieces
  | applyLayerDelta task => task.pieces
  | loadExampleDataset task => task.pieces
  | compileModel task => task.pieces
  | train task => task.pieces
  | checkpointCallback task => task.pieces
  | csvLoggerCallback task => task.pieces
  | custom task => task.code.map fun code => [verbatim code]

/-- The code of a task is the text of its pieces. -/
theorem prints_code (body : Body) : Prints body.code body.pieces := by
  cases body with
  | empty | enableEagerExecution => rfl
  | loadModel task | saveModel task | loadImage task | csvLoggerCallback task
  | checkpointCallback task =>
      refine .bind fun _ => .bind fun _ => .ok ?_
      simp [ToString.toString, String.append_assoc]
  | compileModel task =>
      refine .bind fun _ => .bind fun _ => .bind fun _ => .ok ?_
      simp [ToString.toString, String.append_assoc, Function.comp_def]
  | runInference task =>
      refine .bind fun _ => .bind fun _ => .bind fun _ => .ok ?_
      cases task.steps <;> simp [ToString.toString, String.append_assoc]
  | train task =>
      refine .bind fun _ => .bind fun _ => .bind fun _ => .ok ?_
      -- Literals that meet must stay apart: with a batch size of None others meet on each side.
      cases task.batchSize <;>
        simp [-String.reduceAppend, ToString.toString, String.append_assoc]
  | runPlugin task =>
      refine .bind fun outputs => .bind fun _ => .bind fun _ => .bind fun _ => .ok ?_
      cases outputs <;> simp [RunPlugin.targetPieces, ToString.toString, String.append_assoc]
  | applyLayerDelta task =>
      refine .bind fun _ => .bind fun _ => .bind fun _ => .bind fun _ => .ok ?_
      simp [ToString.toString, String.append_assoc, Function.comp_def]
  | loadExampleDataset task =>
      refine .bind fun _ => .bind fun _ => .bind fun _ => .bind fun _ => .bind fun _ => .ok ?_
      simp [ToString.toString, String.append_assoc]
  | custom task =>
      show task.code = (task.code.map fun code => [verbatim code]).map render
      cases task.code <;> simp [Except.map]

/-- The code of a task names only variables of the fields of the task. -/
theorem namesOnly_pieces (body : Body) : NamesOnly body.pieces body.named := by
  cases body with
  | empty | enableEagerExecution => exact .ok (by simp)
  | loadModel task =>
      refine .read_bind fun model hmodel => .read_bind fun _ _ => .ok ?_
      simp [named, hmodel]
  | saveModel task =>
      refine .read_bind fun model hmodel => .read_bind fun _ _ => .ok ?_
      simp [named, hmodel]
  | loadImage task =>
      refine .read_bind fun image himage => .read_bind fun _ _ => .ok ?_
      simp [named, himage]
  | csvLoggerCallback task =>
      refine .read_bind fun output houtput => .read_bind fun _ _ => .ok ?_
      simp [named, houtput]
  | checkpointCallback task =>
      refine .read_bind fun _ _ => .read_bind fun output houtput => .ok ?_
      simp [named, houtput]
  | compileModel task =>
      refine .read_bind fun model hmodel => .read_bind fun _ _ => .read_bind fun _ _ => .ok ?_
      simp [named, hmodel, List.flatMap_map]
  | runInference task =>
      refine .read_bind fun output houtput => .read_bind fun model hmodel =>
        .read_bind fun input hinput => .ok ?_
      cases hsteps : task.steps <;> simp [named, houtput, hmodel, hinput, hsteps]
  | runPlugin task =>
      refine .read_bind fun outputs houtputs => .read_bind fun _ _ => .read_bind fun _ _ =>
        .read_bind fun inputs hinputs => .ok ?_
      simp [named, houtputs, hinputs, or_comm]
  | applyLayerDelta task =>
      refine .read_bind fun input hinput => .read_bind fun output houtput =>
        .read_bind fun new _ => .read_bind fun current _ => .ok fun slot hslot => ?_
      have hmodel : slot = input ∨ slot = output := by
        simp only [slots_append, slots_name, slots_fixed, slots_nil, List.mem_append,
          List.mem_cons, List.not_mem_nil, or_false, ApplyLayerDelta.slots_sequencePieces,
          slots_flatten, List.mem_flatMap, List.mem_map] at hslot
        rcases hslot with (rfl | ⟨_, ⟨source, _, rfl⟩, h⟩) | ⟨_, ⟨layer, _, rfl⟩, h⟩
        · exact .inr rfl
        · exact .inl (ApplyLayerDelta.eq_of_mem_slots_pieces h)
        · exact .inr (ApplyLayerDelta.eq_of_mem_slots_flagPieces h)
      simpa [named, hinput, houtput] using hmodel
  | loadExampleDataset task =>
      refine .read_bind fun xTrain hxTrain => .read_bind fun yTrain hyTrain =>
        .read_bind fun xTest hxTest => .read_bind fun yTest hyTest => .read_bind fun _ _ => .ok ?_
      simp [named, hxTrain, hyTrain, hxTest, hyTest]
  | train task =>
      refine .read_bind fun model hmodel => .read_bind fun input hinput =>
        .read_bind fun output houtput => .ok fun slot hslot => ?_
      have hvalidation := @Train.mem_of_mem_slots_validationPieces task slot
      simp only [slots_append, slots_name, slots_fixed, slots_nil, slots_listed,
        List.mem_append, List.mem_cons, List.not_mem_nil, or_false] at hslot
      simp only [named, hmodel, hinput, houtput, Option.toList_some, List.mem_append,
        List.mem_cons, List.not_mem_nil, or_false] at hvalidation ⊢
      grind
  | custom task =>
      intro written hwritten slot hslot
      change task.code.map (fun code => [verbatim code]) = .ok written at hwritten
      cases hcode : task.code with
      | error error => simp [hcode, Except.map] at hwritten
      | ok code =>
          rw [hcode] at hwritten
          obtain rfl := Except.ok.inj hwritten
          cases hslot

end Body

end TaskScript
