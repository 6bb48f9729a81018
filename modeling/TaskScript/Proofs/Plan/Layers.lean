/-
How the layers of a new model are laid out.  The code of the task leaves out a layer that has no
source, but the check refuses it; so in a script each new layer has its argument, each flag its
line, and both come in the order of the layers.
-/
import TaskScript.Proofs.Plan.Outcome
import TaskScript.Proofs.Script.Sections
import TaskScript.Proofs.Task.Validity

namespace TaskScript

namespace ApplyLayerDelta

/-- The argument for a layer of the new model: the layer of that name if the starting model has
one, whatever else would build it, and what builds it if not. -/
inductive Argument (input : Variable) (current : List Layer) (layer : Layer) : String → Prop
  | copied (hknown : ∃ known ∈ current, known.name = layer.name) :
      Argument input current layer s!"{input.name}.get_layer({Text.quote layer.name})"
  | built {expression : String} (hunknown : ∀ known ∈ current, known.name ≠ layer.name)
      (hbuilt : layer.constructor? = some expression) : Argument input current layer expression

/-- Arguments between brackets: on one line if there is at most one, else a line for each. -/
inductive Bracketed : List String → String → Prop
  | empty : Bracketed [] "[]"
  | single (argument : String) : Bracketed [argument] ("[" ++ argument ++ "]")
  | lines {arguments : List String} (hmany : 2 ≤ arguments.length) :
      Bracketed arguments ("[\n    " ++ ",\n    ".intercalate arguments ++ "\n]")

/-- The line that gives a layer of the new model its flag. -/
inductive FlagSetting (output : Variable) (layer : Layer) : String → Prop
  | sets {flag : Bool} (hflag : layer.trainable = some flag) :
      FlagSetting output layer
        s!"{output.name}.get_layer({Text.quote layer.name}).trainable = {Text.truth flag}"

/-- The code makes a model from one argument for each new layer, then sets the flag of each new
layer that has one, a line for each, and does nothing else. -/
def LaysOut (input output : Variable) (current new : List Layer) (code : String) : Prop :=
  ∃ arguments list settings, List.Forall₂ (Argument input current) new arguments ∧
    Bracketed arguments list ∧
    List.Forall₂ (FlagSetting output) (new.filter (·.trainable.isSome)) settings ∧
    code = "\n".intercalate (s!"{output.name} = tf.keras.Sequential({list})" :: settings)

/-- A task with all its fields assigned. -/
def assigned (input output : Variable) (current new : List Layer) : ApplyLayerDelta where
  modelInput := ⟨some input⟩
  currentLayers := ⟨some current⟩
  newLayers := ⟨some new⟩
  newModelOutput := ⟨some output⟩

variable {input output : Variable} {current new : List Layer} {layer : Layer}

theorem exists_eq_assigned {task : ApplyLayerDelta}
    (hwaiting : (Body.applyLayerDelta task).waiting = []) :
    ∃ input output current new, task = assigned input output current new := by
  obtain ⟨⟨_ | input⟩, ⟨_ | current⟩, ⟨_ | new⟩, ⟨_ | output⟩⟩ := task
  case some.some.some.some => exact ⟨input, output, current, new, rfl⟩
  all_goals simp [Body.waiting, Once.waiting, Once.isAssigned] at hwaiting

theorem check_assigned (input output : Variable) (current new : List Layer) :
    ∃ passed, (assigned input output current new).check = .ok passed ∧
      (passed = true ↔ ∀ layer ∈ new,
        (∃ known ∈ current, known.name = layer.name) ∨
          ∃ expression, layer.constructor? = some expression) := by
  refine ⟨_, rfl, ?_⟩
  simp only [List.all_eq_true, Body.isSome_source?_iff]

/-- A layer with a source has its argument. -/
theorem exists_argument (input : Variable)
    (hsource : (source? current layer).isSome = true) :
    ∃ source, source? current layer = some source ∧
      Argument input current layer (source.code input) := by
  unfold source? at hsource ⊢
  by_cases hknown : current.any (·.name == layer.name) = true
  · rw [if_pos hknown]
    exact ⟨_, rfl, .copied (by simpa using hknown)⟩
  · rw [if_neg hknown] at hsource ⊢
    obtain ⟨expression, hbuilt⟩ := Option.isSome_iff_exists.mp (Option.isSome_map ▸ hsource)
    rw [hbuilt]
    exact ⟨_, rfl, .built (by simpa using hknown) hbuilt⟩

theorem forall₂_argument (input : Variable)
    (hsources : ∀ layer ∈ new, (source? current layer).isSome = true) :
    List.Forall₂ (Argument input current) new
      ((new.filterMap (source? current)).map (·.code input)) := by
  induction new with
  | nil => exact .nil
  | cons layer rest ih =>
      obtain ⟨hfirst, hrest⟩ := List.forall_mem_cons.mp hsources
      obtain ⟨source, hsource, hargument⟩ := exists_argument input hfirst
      rw [List.filterMap_cons_some hsource, List.map_cons]
      exact .cons hargument (ih hrest)

theorem bracketed_sequence (arguments : List String) :
    Bracketed arguments (sequence arguments) := by
  unfold sequence
  match arguments with
  | [] => exact .empty
  | [argument] =>
      have hjoin : String.join [argument] = argument := by simp
      rw [if_pos (by simp), hjoin]
      exact .single argument
  | first :: second :: rest =>
      rw [if_neg (by simp)]
      exact .lines (by simp)

/-- A layer without a flag has no line. -/
theorem exists_settings (output : Variable) (new : List Layer) :
    ∃ settings, List.Forall₂ (FlagSetting output) (new.filter (·.trainable.isSome)) settings ∧
      ∀ opening, opening ++ String.join (new.map (flagLine output)) =
        "\n".intercalate (opening :: settings) := by
  induction new with
  | nil => exact ⟨[], .nil, fun opening => by simp⟩
  | cons layer rest ih =>
      obtain ⟨settings, hsettings, hlines⟩ := ih
      cases hflag : layer.trainable with
      | none =>
          rw [List.filter_cons_of_neg (by simp [hflag])]
          refine ⟨settings, hsettings, fun opening => ?_⟩
          rw [List.map_cons, String.join_cons, flagLine, hflag, String.empty_append, hlines]
      | some flag =>
          rw [List.filter_cons_of_pos (by simp [hflag])]
          refine ⟨_ :: settings, .cons (.sets hflag) hsettings, fun opening => ?_⟩
          rw [List.map_cons, String.join_cons, String.intercalate_cons_cons, ← hlines, flagLine,
            hflag]
          simp [ToString.toString, String.append_assoc]

theorem laysOut_of_check (input output : Variable)
    (hsources : ∀ layer ∈ new, (source? current layer).isSome = true) :
    ∃ code, (assigned input output current new).code = .ok code ∧
      LaysOut input output current new code := by
  obtain ⟨settings, hsettings, hlines⟩ := exists_settings output new
  refine ⟨_, rfl, _, _, settings, forall₂_argument input hsources, bracketed_sequence _,
    hsettings, ?_⟩
  exact hlines _

end ApplyLayerDelta

theorem Script.mem_sections_ofTasks {tasks : List Task} {task : Task} {code : String}
    (htask : task ∈ tasks) (hcode : task.body.code = .ok code)
    (hblank : Text.allBlank code = false) :
    { kind := task.kind, task := task.name, code } ∈ (ofTasks tasks).sections := by
  rw [sections_ofTasks, List.mem_filterMap]
  exact ⟨task, htask, by simp [sectionOf?, hcode, hblank]⟩

namespace Plan

open ApplyLayerDelta

/-- A task that lays out layers passes its check exactly when each new layer is in the starting
model or can be built, and then its code has one argument for each new layer and one line for each
flag.  So nothing is missing from the section that such a task has in a script. -/
theorem layers_laid_out :
    (∀ (input output : Variable) (current new : List Layer),
      ∃ passed, (assigned input output current new).check = .ok passed ∧
        (passed = true ↔ ∀ layer ∈ new,
          (∃ known ∈ current, known.name = layer.name) ∨
            ∃ expression, layer.constructor? = some expression) ∧
        (passed = true → ∃ code, (assigned input output current new).code = .ok code ∧
          LaysOut input output current new code)) ∧
    ∀ (plan : Plan) (comments : Bool) (text : String), plan.text comments = .ok text →
      text = (Script.ofTasks plan.orderedTasks).text comments ∧
      ∀ task ∈ plan.tasks.items, ∀ delta, task.body = .applyLayerDelta delta →
        ∃ input output current new code, delta = assigned input output current new ∧
          LaysOut input output current new code ∧
          { kind := .applyLayerDelta, task := task.name, code } ∈
            (Script.ofTasks plan.orderedTasks).sections := by
  refine ⟨?_, ?_⟩
  · intro input output current new
    obtain ⟨passed, hcheck, hpassed⟩ := check_assigned input output current new
    refine ⟨passed, hcheck, hpassed, fun h => ?_⟩
    exact laysOut_of_check input output fun layer hlayer =>
      Body.isSome_source?_iff.mpr (hpassed.mp h layer hlayer)
  · intro plan comments text htext
    obtain ⟨hproblems, _, hscript⟩ := text_eq_ok_iff.mp htext
    have hperm := perm_orderedTasks (sound_of_problems_eq_nil hproblems).acyclic
    refine ⟨hscript.symm, ?_⟩
    intro task htask delta hdelta
    obtain ⟨written, hwritten⟩ := exists_code_of_text htext htask
    obtain ⟨input, output, current, new, rfl⟩ :=
      exists_eq_assigned (hdelta ▸ Body.waiting_eq_nil_of_code hwritten)
    have hchecked := Body.check_of_isConfigured (isConfigured_of_text htext htask)
    obtain ⟨passed, hcheck, hpassed⟩ := check_assigned input output current new
    rw [hdelta] at hchecked
    obtain rfl : passed = true := Except.ok.inj (hcheck.symm.trans hchecked)
    obtain ⟨code, hcode, hlays⟩ := laysOut_of_check input output
      fun layer hlayer => Body.isSome_source?_iff.mpr (hpassed.mp rfl layer hlayer)
    have hbody : task.body.code = .ok code := hdelta ▸ hcode
    have hblank : Text.allBlank code = false :=
      Body.allBlank_code (by rw [hdelta]; rfl) (by rw [hdelta]; nofun) hbody
    have hkind : task.kind = .applyLayerDelta := by rw [Task.kind, hdelta]; rfl
    refine ⟨input, output, current, new, code, rfl, hlays, ?_⟩
    exact hkind ▸ Script.mem_sections_ofTasks (hperm.mem_iff.mpr htask) hbody hblank

/-- The new model has a layer of the old one twice, though it could be built, and a new one. -/
def relayered : Plan where
  env := { acceptsPath := fun _ => true }
  names := {}
  tasks := .ofItems 1 [
      { body := .applyLayerDelta (assigned ⟨"m", true⟩ ⟨"n", true⟩ [{ name := "a" }]
          [{ name := "a", trainable := some true, constructor? := some "A()" },
            { name := "b", constructor? := some "B()" },
            { name := "a", trainable := some false }])
        name := "delta" }]

theorem layers_laid_out_relayered :
    (∃ passed, (assigned ⟨"m", true⟩ ⟨"n", true⟩ [{ name := "a" }] [{ name := "c" }]).check =
      .ok passed ∧ passed ≠ true) ∧
    ∃ text, relayered.text false = .ok text ∧ ∃ input output current new code,
      LaysOut input output current new code ∧ new.map Layer.name = ["a", "b", "a"] ∧
      { kind := .applyLayerDelta, task := "delta", code } ∈
        (Script.ofTasks relayered.orderedTasks).sections := by
  have htext : relayered.text false = .ok ((Script.ofTasks relayered.orderedTasks).text false) :=
    text_eq_ok_iff.mpr ⟨by cbv, by cbv, rfl⟩
  obtain ⟨hcheck, hplan⟩ := layers_laid_out
  obtain ⟨passed, hpassed, hiff, _⟩ :=
    hcheck ⟨"m", true⟩ ⟨"n", true⟩ [{ name := "a" }] [{ name := "c" }]
  refine ⟨⟨passed, hpassed, fun h => ?_⟩, _, htext, ?_⟩
  · have hsource := hiff.mp h { name := "c" } (.head _)
    simp at hsource
  · obtain ⟨_, htasks⟩ := hplan relayered false _ htext
    obtain ⟨input, output, current, new, code, heq, hlays, hsection⟩ :=
      htasks _ (.head _) _ rfl
    refine ⟨input, output, current, new, code, hlays, ?_, hsection⟩
    obtain rfl : [_, _, _] = new := Option.some.inj (congrArg (·.newLayers.value?) heq)
    rfl

end Plan

end TaskScript
