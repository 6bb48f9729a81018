/-
Graphs whose edges all lead to later nodes.  They have no cycle, and their order is that of the
nodes.
-/
import TaskScript.Proofs.Graph.Progress

namespace TaskScript.Graph

open Relation

variable {n : Nat}

/-- Every edge leads from a node to a later one. -/
def LeadsForward (graph : Graph n) : Prop :=
  ∀ source target, graph.HasEdge source target → source < target

namespace LeadsForward

variable {graph : Graph n} (hforward : graph.LeadsForward)

include hforward

theorem lt_of_transGen {source target : Fin n} (hreach : TransGen graph.HasEdge source target) :
    source < target := by
  induction hreach with
  | single hedge => exact hforward _ _ hedge
  | tail _ hedge ih => exact ih.trans (hforward _ _ hedge)

theorem acyclic : graph.Acyclic :=
  fun node hcycle => lt_irrefl node (hforward.lt_of_transGen hcycle)

theorem isOrdering_finRange : graph.IsOrdering (List.finRange n) where
  perm := .refl _
  forward source target hedge := by
    rw [List.idxOf_finRange, List.idxOf_finRange]
    exact hforward source target hedge

/-- Where the order first took a different node, it would have passed over a smaller one. -/
theorem order_eq : graph.order = List.finRange n := by
  have hturn := (isOrdering_iff.mp hforward.isOrdering_finRange).1
  have hperm := (isOrdering_order hforward.acyclic).perm
  by_contra hne
  obtain ⟨common, mine, theirs, rest, rest', horder, hrange, hlt⟩ :=
    (order_leastFirst graph).lt_of_ne hturn hperm.length_eq.symm (Ne.symm hne)
  have hsorted : (common ++ theirs :: rest').Pairwise (· < ·) :=
    hrange ▸ List.pairwise_lt_finRange n
  have hmine : mine ∈ common ++ theirs :: rest' := hrange ▸ List.mem_finRange mine
  have hnodup : (common ++ mine :: rest).Nodup :=
    horder ▸ hperm.nodup_iff.mpr (List.nodup_finRange n)
  have hcommon : mine ∉ common := fun h =>
    (List.nodup_append.mp hnodup).2.2 mine h mine List.mem_cons_self rfl
  rcases List.mem_append.mp hmine with h | h
  · exact hcommon h
  · rcases List.mem_cons.mp h with rfl | h
    · exact lt_irrefl _ hlt
    · exact lt_asymm hlt
        ((List.pairwise_cons.mp (List.pairwise_append.mp hsorted).2.1).1 mine h)

end LeadsForward

end TaskScript.Graph
