/-
Plans whose tasks run in the order they were declared.  Each task depends on earlier ones only
and reads what earlier ones assign, and the markers stand at the two ends; then the markers and
the dependencies are in order too, and so is the data flow of the script.
-/
import TaskScript.Proofs.Graph.Forward
import TaskScript.Proofs.Plan.Outcome
import TaskScript.Proofs.Task.Identifier
import TaskScript.Task.Fields

namespace TaskScript

open Relation

namespace Task

/-- The task is known to assign the variable. -/
def Assigns (task : Task) (slot : Variable) : Prop :=
  ∃ assigned, task.body.outputs = .ok assigned ∧ slot ∈ assigned

/-- The task needs nothing but what was there before: it depends on earlier tasks of its list,
an earlier task assigns what it reads, and it holds no other variable that it does not assign. -/
structure Follows (owner : Nat) (before : List Task) (task : Task) : Prop where
  dependencies : ∀ id ∈ task.dependencies, id.owner = owner ∧ id.index < before.length
  inputs : ∃ set, task.body.inputs = .ok set ∧
    ∀ slot ∈ set, ∃ earlier ∈ before, earlier.Assigns slot
  named : ∀ slot ∈ task.body.named,
    task.Assigns slot ∨ ∃ earlier ∈ before, earlier.Assigns slot

end Task

/-- Each of the tasks needs nothing but what was there before it. -/
def Fed (owner : Nat) (before : List Task) : List Task → Prop
  | [] => True
  | task :: rest => task.Follows owner before ∧ Fed owner (before ++ [task]) rest

theorem fed_append {owner : Nat} {before first second : List Task} :
    Fed owner before (first ++ second) ↔
      Fed owner before first ∧ Fed owner (before ++ first) second := by
  induction first generalizing before with
  | nil => simp [Fed]
  | cons task rest ih => simp [Fed, ih, and_assoc]

theorem Fed.follows {owner : Nat} {before front after : List Task} {task : Task}
    (hfed : Fed owner before (front ++ task :: after)) : task.Follows owner (before ++ front) :=
  (fed_append.mp hfed).2.1

namespace Plan

/-- The tasks need nothing but earlier ones, and the markers stand at the two ends. -/
structure Straight (plan : Plan) : Prop where
  fed : Fed plan.tasks.owner [] plan.tasks.items
  pregeneration : ∀ id, plan.pregenerationLast = some id →
    ∃ marked : Fin plan.tasks.size, id = plan.tasks.id marked ∧ marked.val = 0
  last : ∀ id, plan.last = some id →
    ∃ marked : Fin plan.tasks.size, id = plan.tasks.id marked ∧ marked.val + 1 = plan.tasks.size

namespace Straight

variable {plan : Plan} (hstraight : plan.Straight)

include hstraight

theorem follows_task (position : Fin plan.tasks.size) :
    (plan.tasks.task position).Follows plan.tasks.owner (plan.tasks.items.take position) := by
  have hfed := hstraight.fed
  obtain ⟨hlt, hitem⟩ := List.getElem?_eq_some_iff.mp (TaskList.getElem?_items position)
  rw [← List.take_append_drop position plan.tasks.items, List.drop_eq_getElem_cons hlt,
    hitem] at hfed
  exact hfed.follows

theorem lt_of_dependsOn {task dependency : Fin plan.tasks.size}
    (hdepends : plan.tasks.DependsOn task dependency) : dependency < task := by
  have hindex := ((hstraight.follows_task task).dependencies _ hdepends).2
  rw [List.length_take] at hindex
  exact Nat.lt_of_lt_of_le hindex (Nat.min_le_left _ _)

theorem val_of_pregenerationLast? {marked : Fin plan.tasks.size}
    (hmarked : plan.pregenerationLast? = some marked) : marked.val = 0 := by
  obtain ⟨first, hfirst, hval⟩ :=
    hstraight.pregeneration _ (pregenerationLast?_eq_some_iff.mp hmarked)
  have hindex : marked.val = first.val := congrArg TaskId.index hfirst
  omega

theorem val_of_last? {marked : Fin plan.tasks.size} (hmarked : plan.last? = some marked) :
    marked.val + 1 = plan.tasks.size := by
  obtain ⟨final, hfinal, hval⟩ := hstraight.last _ (last?_eq_some_iff.mp hmarked).1
  have hindex : marked.val = final.val := congrArg TaskId.index hfinal
  omega

theorem leadsForward : plan.graph.LeadsForward := by
  intro source target hedge
  rcases TaskList.hasEdge_graph.mp hedge with hdepends | ⟨hmarked, hnot⟩ | ⟨hmarked, hne⟩
  · exact hstraight.lt_of_dependsOn hdepends
  · have hfirst := hstraight.val_of_pregenerationLast? hmarked
    have hne : source.val ≠ target.val := fun h => hnot (Fin.ext h ▸ .refl)
    exact Fin.lt_def.mpr (by omega)
  · have hfinal := hstraight.val_of_last? hmarked
    have hval : source.val ≠ target.val := Fin.val_ne_of_ne hne
    exact Fin.lt_def.mpr (by omega)

theorem order_eq : plan.graph.order = plan.tasks.positions := hstraight.leadsForward.order_eq

theorem orderedTasks_eq : plan.orderedTasks = plan.tasks.items := by
  rw [orderedTasks, hstraight.order_eq, TaskList.map_task_positions]

theorem cycleProblems_eq_nil : plan.cycleProblems = [] :=
  cycleProblems_eq_nil_iff.mpr hstraight.leadsForward.acyclic

theorem pregenerationProblems_eq_nil : plan.pregenerationProblems = [] := by
  rw [pregenerationProblems_eq_nil_iff]
  intro id hid
  obtain ⟨marked, rfl, _⟩ := hstraight.pregeneration id hid
  exact ⟨marked, pregenerationLast?_eq_some_iff.mpr hid⟩

/-- No task is declared after the last one, so none depends on it. -/
theorem lastProblems_eq_nil : plan.lastProblems = [] := by
  rw [lastProblems_eq_nil_iff]
  intro id hid
  obtain ⟨marked, rfl, hval⟩ := hstraight.last id hid
  refine ⟨marked, last?_eq_some_iff.mpr ⟨hid, fun other hne hdepends => ?_⟩⟩
  have hlt := Fin.lt_def.mp (hstraight.lt_of_dependsOn hdepends)
  omega

theorem danglingProblems_eq_nil : plan.danglingProblems = [] := by
  rw [danglingProblems, List.flatMap_eq_nil_iff]
  intro task htask
  obtain ⟨before, after, hsplit⟩ := List.append_of_mem htask
  have hfollows : task.Follows plan.tasks.owner before := (hsplit ▸ hstraight.fed).follows
  rw [List.map_eq_nil_iff, List.filter_eq_nil_iff]
  intro id hid
  obtain ⟨howner, hindex⟩ := hfollows.dependencies id hid
  have hsize : before.length < plan.tasks.size := by
    rw [← TaskList.length_items, hsplit]
    simp
  simp [TaskList.owns_eq_true_iff.mpr ⟨howner, hindex.trans hsize⟩]

end Straight

end Plan

end TaskScript
