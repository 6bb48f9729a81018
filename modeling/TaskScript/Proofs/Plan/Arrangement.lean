/-
Plans whose tasks are arranged alike: as many of them, the markers at the same places, and what
requires what the same.  Their tasks run in the same order, position by position.
-/
import TaskScript.Proofs.Graph.Closure
import TaskScript.Proofs.Plan.Foreign

namespace TaskScript

open Relation

namespace TaskList

/-- If another task requires a task, then some other task depends on it directly. -/
theorem forall_not_requires_iff {tasks : TaskList} {marked : Fin tasks.size} :
    (∀ other, other ≠ marked → ¬ tasks.Requires other marked) ↔
      ∀ other, other ≠ marked → ¬ tasks.DependsOn other marked := by
  constructor
  · exact fun hrequires other hne hdepends => hrequires other hne (.single hdepends)
  · intro hdepends other hne hrequires
    induction hrequires using TransGen.head_induction_on with
    | single hedge => exact hdepends _ hne hedge
    | @head task next hedge _ ih =>
        by_cases hnext : next = marked
        · exact hdepends task hne (hnext ▸ hedge)
        · exact ih hnext

end TaskList

namespace Plan

/-- What the tasks do, one after another. -/
def bodies (plan : Plan) : List Body := plan.tasks.items.map (·.body)

/-- Where a marker points if it is set: to a position, or to none of the tasks. -/
def place? (plan : Plan) (marker : Marker) : Option (Option Nat) :=
  (plan.marked? marker).map fun id => (plan.tasks.position? id).map Fin.val

theorem marked?_eq_some_id_iff {plan : Plan} {marker : Marker} {position : Fin plan.tasks.size} :
    plan.marked? marker = some (plan.tasks.id position) ↔
      plan.place? marker = some (some position.val) := by
  unfold place?
  cases plan.marked? marker with
  | none => simp
  | some id =>
      simp only [Option.map_some, Option.some.injEq, Option.map_eq_some_iff, Fin.val_inj,
        exists_eq_right, TaskList.position?_eq_some_iff]

theorem marked?_eq_none_iff {plan : Plan} {marker : Marker} :
    plan.marked? marker = none ↔ plan.place? marker = none :=
  Option.map_eq_none_iff.symm

theorem body_task {plan : Plan} (position : Fin plan.tasks.size) :
    plan.bodies[position.val]? = some (plan.tasks.task position).body := by
  rw [bodies, List.getElem?_map, TaskList.getElem?_items, Option.map_some]

/-- Two plans differ in nothing that decides about the order of their tasks. -/
structure Arranged (left right : Plan) : Prop where
  size_eq : left.tasks.size = right.tasks.size
  places : ∀ marker, left.place? marker = right.place? marker
  requires : ∀ task dependency, left.tasks.Requires task dependency ↔
    right.tasks.Requires (task.cast size_eq) (dependency.cast size_eq)

/-- Plans that agree in what depends on what directly agree in what requires what. -/
theorem arranged_of_dependsOn_iff {left right : Plan} (hsize : left.tasks.size = right.tasks.size)
    (hplaces : ∀ marker, left.place? marker = right.place? marker)
    (hdepends : ∀ task dependency, left.tasks.DependsOn task dependency ↔
      right.tasks.DependsOn (task.cast hsize) (dependency.cast hsize)) : left.Arranged right where
  size_eq := hsize
  places := hplaces
  requires := transGen_cast_iff_of_closed hsize
    (fun task dependency h => .single ((hdepends task dependency).mp h))
    fun task dependency h => .single ((hdepends task dependency).mpr h)

namespace Arranged

variable {left right : Plan} (harranged : left.Arranged right)

include harranged

theorem marked_iff (marker : Marker) (position : Fin left.tasks.size) :
    left.marked? marker = some (left.tasks.id position) ↔
      right.marked? marker = some (right.tasks.id (position.cast harranged.size_eq)) := by
  have hright : right.marked? marker = some (right.tasks.id (position.cast harranged.size_eq)) ↔
      right.place? marker = some (some position.val) := marked?_eq_some_id_iff
  rw [marked?_eq_some_id_iff, harranged.places, hright]

theorem pregenerationLast?_eq :
    right.pregenerationLast? = left.pregenerationLast?.map (Fin.cast harranged.size_eq) := by
  apply eq_map_cast_of_iff
  intro position
  rw [pregenerationLast?_eq_some_iff, pregenerationLast?_eq_some_iff]
  exact harranged.marked_iff .pregenerationLast position

theorem last?_eq : right.last? = left.last?.map (Fin.cast harranged.size_eq) := by
  -- The last task is refused for direct dependencies only, which the plans need not share.
  apply eq_map_cast_of_iff
  intro position
  rw [last?_eq_some_iff, last?_eq_some_iff, ← TaskList.forall_not_requires_iff,
    ← TaskList.forall_not_requires_iff]
  apply and_congr (harranged.marked_iff .last position)
  apply forall_cast_iff harranged.size_eq
  intro other
  rw [harranged.requires, ne_eq, ne_eq, Fin.cast_inj]

/-- What leads to what is the same in both graphs. -/
theorem transGen_graph_iff (source target : Fin left.tasks.size) :
    TransGen left.graph.HasEdge source target ↔
      TransGen right.graph.HasEdge (source.cast harranged.size_eq)
        (target.cast harranged.size_eq) := by
  rw [graph, graph, harranged.pregenerationLast?_eq, harranged.last?_eq]
  exact TaskList.transGen_graph_cast_iff harranged.size_eq harranged.requires source target

theorem order_eq : right.graph.order = left.graph.order.map (Fin.cast harranged.size_eq) :=
  Graph.order_eq_map_cast_of_transGen_iff harranged.size_eq harranged.transGen_graph_iff

/-- What holds of the tasks at every position holds of them in the order they run. -/
theorem forall₂_orderedTasks {related : Task → Task → Prop}
    (htasks : ∀ position : Fin left.tasks.size,
      related (left.tasks.task position) (right.tasks.task (position.cast harranged.size_eq))) :
    List.Forall₂ related left.orderedTasks right.orderedTasks := by
  rw [orderedTasks, orderedTasks, harranged.order_eq, List.map_map, List.forall₂_map_left_iff,
    List.forall₂_map_right_iff, List.forall₂_same]
  exact fun position _ => htasks position

end Arranged

end Plan

end TaskScript
