/-
The lines of the code of a task.  What a kind writes by itself holds no carriage return and
begins and ends with something that is not blank; names and quoted strings are part of one line.
So the code has as many lines as that of the masked task.
-/
import TaskScript.Proofs.Number.Shown
import TaskScript.Proofs.Task.Masked
import TaskScript.Proofs.Text.Edges

namespace TaskScript

open Piece Text

/-- Everything that is written has the property. -/
def Writes (property : List Piece → Prop) (pieces : Reading (List Piece)) : Prop :=
  ∀ written, pieces = .ok written → property written

namespace Writes

variable {label : String} {α : Type} {property : List Piece → Prop}

theorem ok {written : List Piece} (h : property written) : Writes property (.ok written) := by
  rintro _ ⟨⟩
  exact h

theorem read_bind {field : Once label α} {pieces : α → Reading (List Piece)}
    (h : ∀ value, field.value? = some value → Writes property (pieces value)) :
    Writes property (field.read >>= pieces) := by
  intro written hwritten
  obtain ⟨value, hvalue, hpieces⟩ := Reading.bind_eq_ok_iff.mp hwritten
  exact h value (Reading.read_eq_ok_iff.mp hvalue) written hpieces

end Writes

section Clear

theorem clear_truth (flag : Bool) : Clear (truth flag) := by cases flag <;> decide

theorem Optimizer.clear_code (optimizer : Optimizer) : Clear optimizer.code := by
  have hcall {name : String} {arguments : List String} (hname : Clear name)
      (harguments : ∀ argument ∈ arguments, Clear argument) :
      Clear (Optimizer.code.call name arguments) :=
    (((Clear.append (by decide) hname).append (by decide)).append
      (.intercalate (by decide) harguments)).append (by decide)
  cases optimizer with
  | adam | ftrl | rmsProp =>
      apply hcall (by decide)
      simp +decide [Binary64.clear_text, clear_truth]

theorem Loss.clear_code (loss : Loss) : Clear loss.code := by cases loss; decide

theorem Dataset.clear_name (dataset : Dataset) : Clear dataset.name := by cases dataset <;> decide

theorem SaveFrequency.clear_code (frequency : SaveFrequency) : Clear frequency.code := by
  cases frequency with
  | epoch => decide
  | batches count => exact clear_repr count

end Clear

namespace Piece

/-- Nothing that the kind writes by itself blurs a line, and it writes no code it was given. -/
@[simp] def IsClear : Piece → Prop
  | fixed text => Clear text
  | name _ | quoted _ => True
  | verbatim _ => False

variable {written : List Piece}

theorem forall_isClear_between {separator : String} (hseparator : Clear separator)
    {parts : List (List Piece)} (hparts : ∀ part ∈ parts, ∀ piece ∈ part, piece.IsClear) :
    ∀ piece ∈ between separator parts, piece.IsClear := by
  induction parts with
  | nil => exact nofun
  | cons part rest ih =>
      have hpart := hparts part List.mem_cons_self
      cases rest with
      | nil => simpa using hpart
      | cons next rest =>
          rw [between_cons_cons]
          exact List.forall_mem_append.mpr ⟨hpart, List.forall_mem_cons.mpr ⟨hseparator,
            ih fun other hother => hparts other (List.mem_cons_of_mem part hother)⟩⟩

theorem forall_isClear_listed (items : List Variable) : ∀ piece ∈ listed items, piece.IsClear := by
  apply forall_isClear_between (by decide)
  simp

/-- Masked texts leave the lines as they are, as long as names are no more than a part of a
line. -/
theorem sameBreaks_render_masked (hclear : ∀ piece ∈ written, piece.IsClear)
    (hnames : ∀ slot ∈ slots written, Unbroken slot.name) :
    SameBreaks (render written) (render (written.map Piece.masked)) := by
  induction written with
  | nil => exact .refl List.not_mem_nil
  | cons piece rest ih =>
      obtain ⟨hpiece, hrest⟩ := List.forall_mem_cons.mp hclear
      rw [List.map_cons, render_cons, render_cons]
      refine SameBreaks.append ?_ (ih hrest fun slot hslot =>
        hnames slot (mem_slots.mpr (List.mem_cons_of_mem piece (mem_slots.mp hslot))))
      cases piece with
      | fixed text => exact .refl hpiece
      | name slot =>
          have hmask : Unbroken Variable.mask.name := by decide
          exact .of_unbroken (hnames slot List.mem_cons_self) hmask
      | quoted text => exact .of_unbroken (unbroken_quote text) (unbroken_quote _)
      | verbatim text => exact hpiece.elim

theorem starts_render {piece : Piece} {rest : List Piece} (hpiece : Starts piece.text) :
    Starts (render (piece :: rest)) := by
  rw [render_cons]
  exact hpiece.append _

theorem ends_render (last : String) (hwritten : written.getLast? = some (fixed last))
    (hlast : Ends last) : Ends (render written) := by
  obtain ⟨front, rfl⟩ := List.getLast?_eq_some_iff.mp hwritten
  rw [render_append, render_cons, render_nil, String.append_empty]
  exact hlast.append _

/-- Parts that end like the text before them or are left out. -/
theorem ends_render_flatten {parts : List (List Piece)}
    (hparts : ∀ part ∈ parts, part = [] ∨ Ends (render part)) {front : List Piece}
    (hfront : Ends (render front)) : Ends (render (front ++ parts.flatten)) := by
  induction parts generalizing front with
  | nil => simpa using hfront
  | cons part rest ih =>
      rw [List.flatten_cons, ← List.append_assoc]
      refine ih (fun other hother => hparts other (List.mem_cons_of_mem part hother)) ?_
      rcases hparts part List.mem_cons_self with rfl | hpart
      · rwa [List.append_nil]
      · rw [render_append]
        exact hpart.append _

end Piece

namespace ApplyLayerDelta

theorem forall_isClear_sequencePieces {layers : List (List Piece)}
    (hlayers : ∀ layer ∈ layers, ∀ piece ∈ layer, piece.IsClear) :
    ∀ piece ∈ sequencePieces layers, piece.IsClear := by
  unfold sequencePieces
  split
  · have hflatten : ∀ piece ∈ layers.flatten, piece.IsClear := by
      intro piece hpiece
      obtain ⟨layer, hlayer, hmem⟩ := List.mem_flatten.mp hpiece
      exact hlayers layer hlayer piece hmem
    simp only [List.forall_mem_append]
    exact ⟨⟨by simp +decide, hflatten⟩, by simp +decide⟩
  · simp only [List.forall_mem_append]
    exact ⟨⟨by simp +decide, forall_isClear_between (by decide) hlayers⟩, by simp +decide⟩

theorem forall_isClear_flagPieces (model : Variable) (layer : Layer) :
    ∀ piece ∈ flagPieces model layer, piece.IsClear := by
  unfold flagPieces
  cases layer.trainable with
  | none => exact nofun
  | some flag => simp +decide [clear_truth]

theorem ends_render_flagPieces (model : Variable) (layer : Layer) :
    flagPieces model layer = [] ∨ Ends (render (flagPieces model layer)) := by
  unfold flagPieces
  cases layer.trainable with
  | none => exact .inl rfl
  | some flag => exact .inr (ends_render (truth flag) rfl (by cases flag <;> decide))

end ApplyLayerDelta

namespace Body

theorem clear_pieces {body : Body} (hcustom : body.isBuiltIn = true)
    (hplugin : body.type ≠ .builtIn .runPlugin) (hcopies : body.Copies) :
    Writes (fun written => ∀ piece ∈ written, piece.IsClear) body.pieces := by
  cases body with
  | empty => exact .ok nofun
  | enableEagerExecution => exact .ok (by simp +decide)
  | loadModel task | saveModel task | loadImage task =>
      exact .read_bind fun _ _ => .read_bind fun _ _ => .ok (by simp +decide)
  | csvLoggerCallback task =>
      exact .read_bind fun _ _ => .read_bind fun _ _ => .ok (by simp +decide [clear_truth])
  | checkpointCallback task =>
      exact .read_bind fun _ _ => .read_bind fun _ _ => .ok (by
        simp +decide [clear_truth, clear_repr, SaveFrequency.clear_code])
  | compileModel task =>
      refine .read_bind fun _ _ => .read_bind fun optimizer _ => .read_bind fun loss _ => .ok ?_
      have hmetrics := forall_isClear_between (by decide : Clear ", ")
        (List.forall_mem_map.mpr fun metric _ => by simp :
          ∀ part ∈ task.metrics.map fun metric => [quoted metric], ∀ piece ∈ part, piece.IsClear)
      simp only [List.forall_mem_append]
      exact ⟨⟨by simp +decide [optimizer.clear_code, loss.clear_code], hmetrics⟩, by simp +decide⟩
  | runInference task =>
      refine .read_bind fun _ _ => .read_bind fun _ _ => .read_bind fun _ _ => .ok ?_
      cases task.steps <;> simp +decide
  | runPlugin task => exact absurd rfl hplugin
  | applyLayerDelta task =>
      refine .read_bind fun _ _ => .read_bind fun _ _ => .read_bind fun new hnew =>
        .read_bind fun current hcurrent => .ok ?_
      rw [ApplyLayerDelta.filterMap_source? (hcopies new hnew current hcurrent)]
      simp only [List.forall_mem_append]
      refine ⟨⟨⟨by simp +decide, ApplyLayerDelta.forall_isClear_sequencePieces ?_⟩,
        by simp +decide⟩, fun piece hpiece => ?_⟩
      · simp +decide [ApplyLayerDelta.Source.pieces]
      · obtain ⟨flags, hflags, hmem⟩ := List.mem_flatten.mp hpiece
        obtain ⟨layer, _, rfl⟩ := List.mem_map.mp hflags
        exact ApplyLayerDelta.forall_isClear_flagPieces _ layer piece hmem
  | loadExampleDataset task =>
      refine .read_bind fun _ _ => .read_bind fun _ _ => .read_bind fun _ _ =>
        .read_bind fun _ _ => .read_bind fun _ _ => .ok (by simp +decide [Dataset.clear_name])
  | train task =>
      refine .read_bind fun _ _ => .read_bind fun _ _ => .read_bind fun _ _ => .ok ?_
      have hvalidation : ∀ piece ∈ task.validationPieces, piece.IsClear := by
        unfold Train.validationPieces
        split <;> simp +decide
      simp only [List.forall_mem_append]
      refine ⟨⟨⟨⟨?_, forall_isClear_listed _⟩, ?_⟩, hvalidation⟩, ?_⟩
      · cases task.batchSize <;> simp +decide [clear_repr]
      · simp +decide [Binary64.clear_text]
      · simp +decide [clear_truth]
  | custom task => cases hcustom

/-- Code that is written at all begins and ends with something that is not blank. -/
theorem solid_pieces {body : Body} (hcustom : body.isBuiltIn = true)
    (hplugin : body.type ≠ .builtIn .runPlugin) (hempty : body ≠ .empty) :
    Writes (fun written => (∀ slot ∈ slots written, Solid slot.name) → Solid (render written))
      body.pieces := by
  cases body with
  | empty => exact absurd rfl hempty
  | enableEagerExecution => exact .ok fun _ => ⟨by decide, by decide⟩
  | loadModel task | saveModel task | loadImage task =>
      refine .read_bind fun _ _ => .read_bind fun _ _ => .ok fun hnames => ?_
      exact ⟨starts_render (hnames _ List.mem_cons_self).starts, ends_render ")" rfl (by decide)⟩
  | csvLoggerCallback task =>
      refine .read_bind fun _ _ => .read_bind fun _ _ => .ok fun hnames => ?_
      exact ⟨starts_render (hnames _ List.mem_cons_self).starts, ends_render "\n)" rfl (by decide)⟩
  | checkpointCallback task =>
      refine .read_bind fun _ _ => .read_bind fun _ _ => .ok fun _ => ?_
      exact ⟨starts_render (by decide), ends_render "\n)" rfl (by decide)⟩
  | compileModel task =>
      refine .read_bind fun _ _ => .read_bind fun _ _ => .read_bind fun _ _ => .ok fun hnames => ?_
      exact ⟨starts_render (hnames _ List.mem_cons_self).starts,
        ends_render "]\n)" List.getLast?_concat (by decide)⟩
  | runInference task =>
      refine .read_bind fun _ _ => .read_bind fun _ _ => .read_bind fun _ _ => .ok fun hnames => ?_
      exact ⟨starts_render (hnames _ List.mem_cons_self).starts,
        ends_render ")" List.getLast?_concat (by decide)⟩
  | runPlugin task => exact absurd rfl hplugin
  | applyLayerDelta task =>
      refine .read_bind fun _ _ => .read_bind fun _ _ => .read_bind fun new _ =>
        .read_bind fun _ _ => .ok fun hnames => ?_
      refine ⟨starts_render (hnames _ List.mem_cons_self).starts, ends_render_flatten ?_ ?_⟩
      · rintro _ hpart
        obtain ⟨layer, _, rfl⟩ := List.mem_map.mp hpart
        exact ApplyLayerDelta.ends_render_flagPieces _ layer
      · exact ends_render ")" List.getLast?_concat (by decide)
  | loadExampleDataset task =>
      refine .read_bind fun _ _ => .read_bind fun _ _ => .read_bind fun _ _ =>
        .read_bind fun _ _ => .read_bind fun _ _ => .ok fun _ => ?_
      exact ⟨starts_render (by decide), ends_render ".load_data()" rfl (by decide)⟩
  | train task =>
      refine .read_bind fun _ _ => .read_bind fun _ _ => .read_bind fun _ _ => .ok fun hnames => ?_
      exact ⟨starts_render (hnames _ List.mem_cons_self).starts,
        ends_render "\n)" (by rw [List.getLast?_append]; rfl) (by decide)⟩
  | custom task => cases hcustom

/-- A task that writes no code it was given, and names variables by identifiers. -/
structure Confined (body : Body) : Prop where
  builtIn : body.isBuiltIn = true
  ne_runPlugin : body.type ≠ .builtIn .runPlugin
  copies : body.Copies
  names : ∀ slot ∈ body.named, isIdentifier slot.name = true

namespace Confined

variable {body : Body} {written : List Piece} {code : String}

theorem isToken_of_mem_slots (hconfined : body.Confined) (hwritten : body.pieces = .ok written)
    {slot : Variable} (hslot : slot ∈ slots written) : slot.name ≠ "" ∧ IsToken slot.name :=
  isToken_of_isIdentifier (hconfined.names slot (body.namesOnly_pieces written hwritten slot hslot))

/-- The code has the lines of the code that the masked task has. -/
theorem sameBreaks_masked (hconfined : body.Confined) (hcode : body.code = .ok code) :
    ∃ masked, body.masked.pieces = .ok masked ∧ SameBreaks code (render masked) := by
  obtain ⟨written, hwritten, rfl⟩ := body.prints_code.exists_pieces hcode
  have hmasks := masks_pieces hconfined.builtIn hconfined.copies
  have hclear := clear_pieces hconfined.builtIn hconfined.ne_runPlugin hconfined.copies
  rw [Masks, hwritten] at hmasks
  have hnames : ∀ slot ∈ slots written, Unbroken slot.name := by
    intro slot hslot
    exact (hconfined.isToken_of_mem_slots hwritten hslot).2.unbroken
  exact ⟨_, hmasks, sameBreaks_render_masked (hclear written hwritten) hnames⟩

theorem solid_code (hconfined : body.Confined) (hempty : body ≠ .empty)
    (hcode : body.code = .ok code) : Solid code := by
  obtain ⟨written, hwritten, rfl⟩ := body.prints_code.exists_pieces hcode
  apply solid_pieces hconfined.builtIn hconfined.ne_runPlugin hempty written hwritten
  intro slot hslot
  obtain ⟨hne, htoken⟩ := hconfined.isToken_of_mem_slots hwritten hslot
  exact htoken.solid hne

end Confined

/-- Tasks that differ in nothing but their texts have as many lines of code. -/
theorem sameBreaks_code {left right : Body} (hleft : left.Confined) (hright : right.Confined)
    (hmasked : left.masked = right.masked) {first second : String}
    (hfirst : left.code = .ok first) (hsecond : right.code = .ok second) :
    SameBreaks first second := by
  obtain ⟨masked, hpieces, hbreaks⟩ := hleft.sameBreaks_masked hfirst
  obtain ⟨masked', hpieces', hbreaks'⟩ := hright.sameBreaks_masked hsecond
  rw [hmasked, hpieces'] at hpieces
  obtain rfl := Except.ok.inj hpieces
  exact hbreaks.trans hbreaks'.symm

end Body

end TaskScript
