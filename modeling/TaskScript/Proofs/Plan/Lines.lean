/-
What the texts of a plan cannot do.  Two plans that differ in nothing but the texts their tasks
were given have scripts of as many lines, so no path, layer, metric or name adds a line to a
script, removes one or splits it.
-/
import TaskScript.Proofs.Plan.Arrangement
import TaskScript.Proofs.Script.Lines
import TaskScript.Proofs.Task.Validity

namespace TaskScript

open Text

namespace Body

/-- No layer of the new model has a constructor. -/
def BuildsNothing : Body → Prop
  | applyLayerDelta task =>
      ∀ new ∈ task.newLayers.value?, ∀ layer ∈ new, layer.constructor? = none
  | _ => True

theorem copies_of_rule {env : Environment} {body : Body} (hnothing : body.BuildsNothing)
    (hrule : body.Rule env) : body.Copies := by
  cases body with
  | applyLayerDelta task =>
      obtain ⟨current, hcurrent, new, hnew, hsource⟩ := hrule
      intro new' hnew' current' hcurrent' layer hlayer
      obtain rfl := Option.mem_unique hnew hnew'
      obtain rfl := Option.mem_unique hcurrent hcurrent'
      apply (hsource layer hlayer).resolve_right
      rw [hnothing new hnew layer hlayer]
      exact nofun
  | _ => trivial

/-- A task that is configured correctly is confined, if it is of a kind that writes no code it
was given and its variables were checked to be identifiers. -/
theorem confined_of_isConfigured {env : Environment} {body : Body} (hcustom : body.isBuiltIn = true)
    (hplugin : body.type ≠ .builtIn .runPlugin) (hnothing : body.BuildsNothing)
    (hnames : ∀ slot ∈ body.named, slot.isValid = isIdentifier slot.name)
    (hconfigured : body.isConfigured env = .ok true) : body.Confined where
  builtIn := hcustom
  ne_runPlugin := hplugin
  copies := by
    have hpassed := check_of_isConfigured hconfigured
    exact copies_of_rule hnothing ((check_eq_true_iff hcustom hpassed).mp rfl)
  names slot hslot := by
    obtain ⟨checked, hchecked, hname, hvalid⟩ := exists_valid_of_isConfigured hconfigured hslot
    rwa [hnames checked hchecked, hname] at hvalid

end Body

namespace Plan

/-- The tasks are of the built-in kinds that write no code they were given, and their variables
were checked by the rule for names that holds by default. -/
structure Guarded (plan : Plan) : Prop where
  builtIn : ∀ body ∈ plan.bodies, body.isBuiltIn = true ∧ body.type ≠ .builtIn .runPlugin
  buildsNothing : ∀ body ∈ plan.bodies, body.BuildsNothing
  names : ∀ body ∈ plan.bodies, ∀ slot ∈ body.named, slot.isValid = isIdentifier slot.name

theorem Guarded.confined {plan : Plan} (hguarded : plan.Guarded) {comments : Bool} {text : String}
    (htext : plan.text comments = .ok text) {task : Task} (htask : task ∈ plan.tasks.items) :
    task.body.Confined := by
  have hbody : task.body ∈ plan.bodies := List.mem_map_of_mem htask
  obtain ⟨hcustom, hplugin⟩ := hguarded.builtIn _ hbody
  exact Body.confined_of_isConfigured hcustom hplugin (hguarded.buildsNothing _ hbody)
    (hguarded.names _ hbody) (isConfigured_of_text htext htask)

/-- Texts that tasks were given never break a line: plans that are arranged alike and whose
tasks, position by position, differ in nothing but their texts have scripts with as many line
feeds, and no carriage return is in either. -/
theorem texts_break_no_line {left right : Plan} (harranged : left.Arranged right)
    (hmasked : left.bodies.map Body.masked = right.bodies.map Body.masked)
    (hleft : left.Guarded) (hright : right.Guarded) {comments : Bool} {first second : String}
    (hfirst : left.text comments = .ok first) (hsecond : right.text comments = .ok second) :
    first.toList.count '\n' = second.toList.count '\n' ∧
      '\r' ∉ first.toList ∧ '\r' ∉ second.toList := by
  have htasks (position : Fin left.tasks.size) : (left.tasks.task position).Alike
      (right.tasks.task (position.cast harranged.size_eq)) := by
    have hitem := List.mem_of_getElem? (TaskList.getElem?_items position)
    have hitem' := List.mem_of_getElem?
      (TaskList.getElem?_items (position.cast harranged.size_eq))
    refine ⟨hleft.confined hfirst hitem, hright.confined hsecond hitem',
      exists_code_of_text hfirst hitem, exists_code_of_text hsecond hitem', ?_⟩
    have hposition := congrArg (fun bodies : List Body => bodies[position.val]?) hmasked
    have hbody' := body_task (position.cast harranged.size_eq)
    rw [Fin.val_cast] at hbody'
    simpa only [List.getElem?_map, body_task, hbody', Option.map_some, Option.some.injEq]
      using hposition
  obtain ⟨_, _, rfl⟩ := text_eq_ok_iff.mp hfirst
  obtain ⟨_, _, rfl⟩ := text_eq_ok_iff.mp hsecond
  have hbreaks := Script.sameBreaks_text (harranged.forall₂_orderedTasks htasks) comments
  exact ⟨hbreaks.count_eq, hbreaks.left_clear, hbreaks.right_clear⟩

/-- A model is loaded, built anew from its layer and saved; texts and variables are as given. -/
def relabelled (owner : Nat) (text slot other : String) : Plan where
  env := { acceptsPath := fun _ => true }
  names := {}
  tasks := .ofItems owner [
      { body := .loadModel
          { modelPath := ⟨some text⟩
            modelOutput := ⟨some ⟨slot, Text.isIdentifier slot⟩⟩ }
        name := text },
      { body := .applyLayerDelta
          { modelInput := ⟨some ⟨slot, Text.isIdentifier slot⟩⟩
            currentLayers := ⟨some [{ name := text }]⟩
            newLayers := ⟨some [{ name := text, trainable := some false }]⟩
            newModelOutput := ⟨some ⟨other, Text.isIdentifier other⟩⟩ }
        dependencies := .single ⟨owner, 0⟩
        name := slot },
      { body := .saveModel
          { modelInput := ⟨some ⟨other, Text.isIdentifier other⟩⟩
            modelPath := ⟨some text⟩ }
        dependencies := .single ⟨owner, 1⟩
        name := other }]

theorem guarded_relabelled (owner : Nat) (text slot other : String) :
    (relabelled owner text slot other).Guarded where
  builtIn := by simp [relabelled, bodies, Body.isBuiltIn, Body.type, Body.kind]
  buildsNothing := by
    simp [relabelled, bodies, Body.BuildsNothing]
  names := by simp [relabelled, bodies, Body.named]

theorem texts_break_no_line_relabelled :
    let left := relabelled 1 "m" "x" "y"
    let right := relabelled 2 "m\nimport os\r" "model" "copy"
    left.Arranged right ∧ left.bodies.map Body.masked = right.bodies.map Body.masked ∧
      left.Guarded ∧ right.Guarded ∧
      ∃ first second, left.text true = .ok first ∧ right.text true = .ok second ∧
        first.toList.count '\n' = second.toList.count '\n' ∧
        '\r' ∉ first.toList ∧ '\r' ∉ second.toList := by
  intro left right
  have harranged : left.Arranged right :=
    arranged_of_dependsOn_iff rfl (fun marker => by cases marker <;> rfl) (by decide)
  have hmasked : left.bodies.map Body.masked = right.bodies.map Body.masked := rfl
  have hleft : left.Guarded := guarded_relabelled ..
  have hright : right.Guarded := guarded_relabelled ..
  obtain ⟨first, hfirst⟩ : ∃ first, left.text true = .ok first :=
    ⟨_, text_eq_ok_iff.mpr ⟨by cbv, by cbv, rfl⟩⟩
  obtain ⟨second, hsecond⟩ : ∃ second, right.text true = .ok second :=
    ⟨_, text_eq_ok_iff.mpr ⟨by cbv, by cbv, rfl⟩⟩
  exact ⟨harranged, hmasked, hleft, hright, first, second, hfirst, hsecond,
    texts_break_no_line harranged hmasked hleft hright hfirst hsecond⟩

end Plan

end TaskScript
