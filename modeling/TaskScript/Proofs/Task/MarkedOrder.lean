/-
The order of tasks with markers.  The task marked as the last before the generation
parts it: in front of it stands what it requires, in the order that the dependencies alone
give, and behind it all the rest.  The task marked as the last of all stands at the end.
-/
import TaskScript.Proofs.Graph.Sink
import TaskScript.Proofs.Task.Dependency

namespace TaskScript.TaskList

open Relation

variable {tasks : TaskList} {pregeneration last : Option (Fin tasks.size)}

theorem transGen_graph_of_requires {task dependency : Fin tasks.size}
    (hrequires : tasks.Requires task dependency) :
    TransGen (tasks.graph pregeneration last).HasEdge dependency task := by
  induction hrequires with
  | single hdepends => exact .single (hasEdge_graph.mpr (Or.inl hdepends))
  | tail _ hdepends ih => exact .head (hasEdge_graph.mpr (Or.inl hdepends)) ih

section Pregeneration

variable {before after : List (Fin tasks.size)} {marked : Fin tasks.size}

theorem mem_before_iff_requires
    (horder : (tasks.graph pregeneration last).IsOrdering (before ++ marked :: after))
    (hmarked : pregeneration = some marked) {task : Fin tasks.size} :
    task ∈ before ↔ tasks.Requires marked task := by
  constructor
  · intro htask
    by_contra hnot
    have hne : task ≠ marked := fun h => horder.not_mem_before (h ▸ htask)
    have hedge : (tasks.graph pregeneration last).HasEdge marked task :=
      hasEdge_of_not_requires hmarked hne hnot
    exact horder.not_mem_before (horder.mem_before_of_hasEdge htask hedge)
  · intro hrequires
    exact horder.mem_before_of_transGen (transGen_graph_of_requires hrequires)

theorem mem_after_iff_not_requires
    (horder : (tasks.graph pregeneration last).IsOrdering (before ++ marked :: after))
    (hmarked : pregeneration = some marked) {task : Fin tasks.size} :
    task ∈ after ↔ task ≠ marked ∧ ¬ tasks.Requires marked task := by
  rw [← mem_before_iff_requires horder hmarked]
  obtain ⟨_, hrest, hapart⟩ := List.nodup_append.mp horder.nodup
  constructor
  · intro htask
    refine ⟨?_, ?_⟩
    · rintro rfl
      exact (List.nodup_cons.mp hrest).1 htask
    · intro hbefore
      exact hapart task hbefore task (List.mem_cons_of_mem marked htask) rfl
  · rintro ⟨hne, hbefore⟩
    rcases List.mem_append.mp (horder.mem task) with h | h
    · exact absurd h hbefore
    · exact (List.mem_cons.mp h).resolve_left hne

/-- The markers add no edge to a task in front of the one marked as the last before the
generation. -/
theorem hasEdge_graph_of_mem_before
    (horder : (tasks.graph pregeneration last).IsOrdering (before ++ marked :: after))
    (hmarked : pregeneration = some marked) {source target : Fin tasks.size}
    (htarget : target ∈ before) :
    (tasks.graph none none).HasEdge source target ↔
      (tasks.graph pregeneration last).HasEdge source target := by
  rw [hasEdge_graph, hasEdge_graph]
  constructor
  · rintro (hdepends | ⟨hsource, _⟩ | ⟨hlast, _⟩)
    · exact Or.inl hdepends
    · cases hsource
    · cases hlast
  · rintro (hdepends | ⟨hsource, hnot⟩ | ⟨hlast, _⟩)
    · exact Or.inl hdepends
    · obtain rfl := Option.some.inj (hmarked.symm.trans hsource)
      have hrequires := (mem_before_iff_requires horder hmarked).mp htarget
      exact absurd hrequires.to_reflTransGen hnot
    · have hne : marked ≠ target := fun h => horder.not_mem_before (h ▸ htarget)
      have hedge : (tasks.graph pregeneration last).HasEdge marked target :=
        hasEdge_last hlast hne
      exact absurd (horder.mem_before_of_hasEdge htarget hedge) horder.not_mem_before

theorem filter_mem_before (hnodup : (before ++ marked :: after).Nodup) :
    (before ++ marked :: after).filter (· ∈ before) = before := by
  obtain ⟨_, _, hapart⟩ := List.nodup_append.mp hnodup
  have hbefore : before.filter (· ∈ before) = before := by simp
  have hrest : (marked :: after).filter (· ∈ before) = [] := by
    rw [List.filter_eq_nil_iff]
    intro task htask
    simpa using fun h => hapart task h task htask rfl
  rw [List.filter_append, hbefore, hrest, List.append_nil]

/-- The tasks in front stand in the order they have without markers. -/
theorem before_eq_filter (hacyclic : (tasks.graph pregeneration last).Acyclic)
    (hsplit : (tasks.graph pregeneration last).order = before ++ marked :: after)
    (hmarked : pregeneration = some marked) :
    before = (tasks.graph none none).order.filter (· ∈ before) := by
  have horder := Graph.isOrdering_order hacyclic
  rw [hsplit] at horder
  have hfilter : (tasks.graph pregeneration last).order.filter (· ∈ before) =
      (tasks.graph none none).order.filter (· ∈ before) :=
    Graph.order_filter_eq (fun _ _ => horder.mem_before_of_hasEdge)
      fun _ _ => hasEdge_graph_of_mem_before horder hmarked
  rw [← hfilter, hsplit, filter_mem_before horder.nodup]

end Pregeneration

theorem getLast?_eq_last {order : List (Fin tasks.size)} {final : Fin tasks.size}
    (horder : (tasks.graph pregeneration last).IsOrdering order) (hlast : last = some final) :
    order.getLast? = some final := by
  rw [horder.eq_erase_concat fun _ hne => hasEdge_last hlast hne, List.getLast?_concat]

end TaskScript.TaskList
