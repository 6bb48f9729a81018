/-
A node at the end of the order.  If every other node leads to it, it is taken last.  If no edge
leads away from it, the edges from all others change nothing but its own place: the others are
ready when they were ready before.
-/
import TaskScript.Proofs.Graph.Progress

namespace TaskScript.Graph

open Relation

variable {n : Nat} {graph ended : Graph n} {sink : Fin n} {order : List (Fin n)}

/-- A node that all others lead to stands at the end. -/
theorem IsOrdering.eq_erase_concat (horder : graph.IsOrdering order)
    (hedges : ∀ source, source ≠ sink → graph.HasEdge source sink) :
    order = order.erase sink ++ [sink] := by
  obtain ⟨before, after, rfl⟩ := List.append_of_mem (horder.mem sink)
  have hsink : sink ∉ before := horder.not_mem_before
  cases after with
  | nil => rw [List.erase_append_right _ hsink, List.erase_cons_head, List.append_nil]
  | cons node after =>
      obtain ⟨_, hrest, hapart⟩ := List.nodup_append.mp horder.nodup
      have hne : node ≠ sink := fun h => (List.nodup_cons.mp hrest).1 (by simp [h])
      have hbefore := horder.mem_before_of_transGen (.single (hedges node hne))
      exact absurd rfl (hapart node hbefore node (by simp))

/-- The second graph has the edges of the first and one to the sink from every other node. -/
def EndsIn (graph : Graph n) (sink : Fin n) (ended : Graph n) : Prop :=
  ∀ source target, ended.HasEdge source target ↔
    graph.HasEdge source target ∨ sink = target ∧ source ≠ target

namespace EndsIn

variable (hends : graph.EndsIn sink ended) (hsink : ∀ target, ¬ graph.HasEdge sink target)

include hends hsink

theorem not_hasEdge (target : Fin n) : ¬ ended.HasEdge sink target := by
  rw [hends]
  rintro (hedge | ⟨htarget, hne⟩)
  · exact hsink target hedge
  · exact hne htarget

theorem acyclic (hacyclic : graph.Acyclic) : ended.Acyclic := by
  refine hacyclic.of_returns fun source target hedge hback => ?_
  rcases (hends source target).mp hedge with hinner | ⟨rfl, hne⟩
  · exact hinner
  · -- Nothing leads away from the sink, so no walk returns to the source of a new edge.
    rcases hback.cases_head with heq | ⟨next, hnext, _⟩
    · exact absurd heq.symm hne
    · exact absurd hnext (hends.not_hasEdge hsink next)

/-- The order is the one without the new edges, but for the sink. -/
theorem order_eq (hacyclic : graph.Acyclic) : ended.order = graph.order.erase sink ++ [sink] := by
  have horder := isOrdering_order (hends.acyclic hsink hacyclic)
  have hothers : ended.order.filter (· ≠ sink) = graph.order.filter (· ≠ sink) := by
    apply order_filter_eq
    · intro source target _ hedge hsource
      exact hends.not_hasEdge hsink target (hsource ▸ hedge)
    · intro source target htarget
      rw [hends]
      exact ⟨Or.inl, fun h => h.resolve_right fun hnew => htarget hnew.1.symm⟩
  have hended : ended.order.erase sink = graph.order.erase sink := by
    rw [horder.nodup.erase_eq_filter, (isOrdering_order hacyclic).nodup.erase_eq_filter]
    simpa [bne, beq_eq_decide] using hothers
  rw [← hended]
  exact horder.eq_erase_concat fun source hne => (hends source sink).mpr (.inr ⟨rfl, hne⟩)

end EndsIn

end TaskScript.Graph
