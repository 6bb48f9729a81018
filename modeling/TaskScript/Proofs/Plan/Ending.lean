/-
What it does to a plan to mark its last task.  If no other task depends on the marked one and it
is not the last before the generation, then it goes to the end of the order and no other task
moves.
-/
import TaskScript.Proofs.Graph.Sink
import TaskScript.Proofs.Plan.Outcome

namespace TaskScript

namespace TaskList

variable {tasks : TaskList} {pregeneration : Option (Fin tasks.size)} {final : Fin tasks.size}

theorem endsIn_graph (tasks : TaskList) (pregeneration : Option (Fin tasks.size))
    (final : Fin tasks.size) :
    (tasks.graph pregeneration none).EndsIn final (tasks.graph pregeneration (some final)) := by
  intro source target
  simp only [hasEdge_graph, Option.some.injEq, reduceCtorEq, false_and, or_false, or_assoc]

/-- No edge leads away from a task that carries no marker and that no other task needs. -/
theorem not_hasEdge_graph (hacyclic : (tasks.graph pregeneration none).Acyclic)
    (hfree : ∀ other, other ≠ final → ¬ tasks.DependsOn other final)
    (hapart : pregeneration ≠ some final) (target : Fin tasks.size) :
    ¬ (tasks.graph pregeneration none).HasEdge final target := by
  intro hedge
  rcases hasEdge_graph.mp hedge with hdepends | ⟨hmarked, _⟩ | ⟨hmarked, _⟩
  · by_cases heq : target = final
    · exact hacyclic final (.single (heq ▸ hedge))
    · exact hfree target heq hdepends
  · exact hapart hmarked
  · cases hmarked

end TaskList

namespace Plan

variable {plan : Plan}

/-- The plan with a task marked as the last of all. -/
def endingWith (plan : Plan) (final : Fin plan.tasks.size) : Plan :=
  { plan with last := some (plan.tasks.id final) }

theorem graph_of_last_eq_none (hnone : plan.last = none) :
    plan.graph = plan.tasks.graph plan.pregenerationLast? none := by
  have hlast : plan.last? = none := by rw [last?, hnone]; rfl
  rw [graph, hlast]

theorem graph_endingWith {final : Fin plan.tasks.size}
    (hfree : ∀ other, other ≠ final → ¬ plan.tasks.DependsOn other final) :
    (plan.endingWith final).graph = plan.tasks.graph plan.pregenerationLast? (some final) := by
  have hlast : (plan.endingWith final).last? = some final := last?_eq_some_iff.mpr ⟨rfl, hfree⟩
  rw [graph, hlast]
  rfl

/-- A task that no other one depends on and that does not carry the other marker can be marked as
the last of all: no cycle comes of it, and in the order of the tasks it is taken out of its place
and put at the end. -/
theorem last_moves_to_end (plan : Plan) (hnone : plan.last = none)
    (hacyclic : plan.graph.Acyclic) (final : Fin plan.tasks.size)
    (hapart : plan.pregenerationLast ≠ some (plan.tasks.id final))
    (hfree : ∀ other, other ≠ final → ¬ plan.tasks.DependsOn other final) :
    (plan.endingWith final).graph.Acyclic ∧
      plan.graph.order.Perm plan.tasks.positions ∧
      (plan.endingWith final).graph.order = plan.graph.order.erase final ++ [final] ∧
      (plan.endingWith final).orderedTasks =
        (plan.graph.order.erase final).map plan.tasks.task ++ [plan.tasks.task final] := by
  have hgraph := graph_of_last_eq_none hnone
  have hended := graph_endingWith hfree
  have hends := plan.tasks.endsIn_graph plan.pregenerationLast? final
  have hsink := TaskList.not_hasEdge_graph (hgraph ▸ hacyclic) hfree fun h =>
    hapart (pregenerationLast?_eq_some_iff.mp h)
  have horder : (plan.endingWith final).graph.order = plan.graph.order.erase final ++ [final] := by
    rw [hgraph, hended]
    exact hends.order_eq hsink (hgraph ▸ hacyclic)
  have htasks : (plan.endingWith final).orderedTasks =
      List.map plan.tasks.task (plan.endingWith final).graph.order := rfl
  refine ⟨hended ▸ hends.acyclic hsink (hgraph ▸ hacyclic),
    (Graph.isOrdering_order hacyclic).perm, horder, ?_⟩
  rw [htasks, horder, List.map_append, List.map_singleton]

/-- Four tasks, of which `b` is the last before the generation and requires `d`. -/
def openEnded : Plan where
  env := { acceptsPath := fun _ => true }
  names := {}
  tasks := .ofItems 1 [
      { body := .custom { code := .ok "a" }, name := "a" },
      { body := .custom { code := .ok "b" }, dependencies := .single ⟨1, 3⟩, name := "b" },
      { body := .custom { code := .ok "c" }, dependencies := .single ⟨1, 3⟩, name := "c" },
      { body := .custom { code := .ok "d" }, name := "d" }]
  pregenerationLast := some ⟨1, 1⟩

theorem last_moves_to_end_openEnded :
    openEnded.last = none ∧ openEnded.graph.Acyclic ∧
      openEnded.pregenerationLast ≠ some (openEnded.tasks.id 0) ∧
      (∀ other, other ≠ ⟨0, by decide⟩ → ¬ openEnded.tasks.DependsOn other ⟨0, by decide⟩) ∧
      openEnded.orderedTasks.map Task.name = ["d", "b", "a", "c"] ∧
      (openEnded.endingWith ⟨0, by decide⟩).graph.Acyclic ∧
      (openEnded.endingWith ⟨0, by decide⟩).orderedTasks.map Task.name = ["d", "b", "c", "a"] := by
  have hacyclic : openEnded.graph.Acyclic := (Graph.findCycle?_eq_none_iff _).mp (by cbv)
  have hapart : openEnded.pregenerationLast ≠ some (openEnded.tasks.id 0) := by decide
  have hfree : ∀ other, other ≠ ⟨0, by decide⟩ →
      ¬ openEnded.tasks.DependsOn other ⟨0, by decide⟩ := by decide
  have horder : openEnded.graph.order = [⟨3, by decide⟩, ⟨1, by decide⟩, ⟨0, by decide⟩,
      ⟨2, by decide⟩] := by cbv
  obtain ⟨hended, _, _, htasks⟩ :=
    last_moves_to_end openEnded rfl hacyclic ⟨0, by decide⟩ hapart hfree
  refine ⟨rfl, hacyclic, hapart, hfree, ?_, hended, ?_⟩
  · rw [orderedTasks, horder]
    rfl
  · rw [htasks, horder]
    rfl

end Plan

end TaskScript
