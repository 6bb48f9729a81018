/-
When the order of a graph passes over a node.  A node may be taken before a smaller one that no
edges put behind it, but only because the smaller one waits for a node that is larger than both
and not taken yet.  No order along the edges can do better for all such pairs at once.
-/
import TaskScript.Proofs.Graph.Progress

namespace TaskScript.Graph

open Relation

variable {n : Nat} {graph : Graph n} {order other : List (Fin n)} {first second : Fin n}

/-- No edges lead from one node to the other, either way. -/
structure Unordered (graph : Graph n) (first second : Fin n) : Prop where
  not_forward : ¬ TransGen graph.HasEdge first second
  not_back : ¬ TransGen graph.HasEdge second first

/-- Of two nodes that the edges leave in no order, the smaller one stands in front. -/
def KeepsNumbering (graph : Graph n) (order : List (Fin n)) : Prop :=
  ∀ first second, first < second → graph.Unordered first second →
    order.idxOf first < order.idxOf second

theorem IsOrdering.idxOf_ne (horder : graph.IsOrdering order) (hne : first ≠ second) :
    order.idxOf first ≠ order.idxOf second :=
  fun h => hne ((List.idxOf_inj (horder.mem first)).mp h)

theorem IsOrdering.idxOf_lt_of_not_mem_before {before after : List (Fin n)}
    (horder : graph.IsOrdering (before ++ first :: after)) (hne : first ≠ second)
    (hsecond : second ∉ before) :
    (before ++ first :: after).idxOf first < (before ++ first :: after).idxOf second := by
  rcases Nat.lt_or_gt_of_ne (horder.idxOf_ne hne) with h | h
  · exact h
  · exact absurd (mem_before_of_idxOf_lt h) hsecond

/-- When the larger node is taken, something that leads to the smaller one is ready.  It is not
less than the node taken, and it is not that node. -/
theorem exists_awaited (hacyclic : graph.Acyclic) (hlt : first < second)
    (hfree : ¬ TransGen graph.HasEdge second first)
    (hpassed : graph.order.idxOf second < graph.order.idxOf first) :
    ∃ awaited, TransGen graph.HasEdge awaited first ∧ second < awaited ∧
      graph.order.idxOf second < graph.order.idxOf awaited := by
  have horder := isOrdering_order hacyclic
  obtain ⟨before, after, hsplit⟩ := List.append_of_mem (horder.mem second)
  have hleast := graph.order_leastFirst
  rw [hsplit] at horder hleast hpassed ⊢
  have hwaiting : first ∉ before.reverse ++ [] := by
    rw [List.append_nil, List.mem_reverse]
    exact fun hfirst => Nat.lt_asymm hpassed (idxOf_lt_of_mem_before horder.nodup hfirst)
  obtain ⟨awaited, hreach, hready⟩ := hacyclic.exists_ready hwaiting
  have hle : second ≤ awaited := hleast.isLeast.2 ⟨trivial, hready⟩
  rcases reflTransGen_iff_eq_or_transGen.mp hreach with rfl | hreach
  · exact absurd hlt (not_lt_of_ge hle)
  · have hne : second ≠ awaited := fun h => hfree (h ▸ hreach)
    refine ⟨awaited, hreach, lt_of_le_of_ne hle hne, horder.idxOf_lt_of_not_mem_before hne ?_⟩
    simpa using hready.1

/-- Which of two nodes that the edges leave in no order is passed over. -/
theorem idxOf_order_lt_iff (hacyclic : graph.Acyclic) (hlt : first < second)
    (hunordered : graph.Unordered first second) :
    graph.order.idxOf second < graph.order.idxOf first ↔
      ∃ awaited, TransGen graph.HasEdge awaited first ∧ second < awaited ∧
        graph.order.idxOf second < graph.order.idxOf awaited := by
  constructor
  · exact exists_awaited hacyclic hlt hunordered.not_back
  · rintro ⟨awaited, hreach, _, hbefore⟩
    exact hbefore.trans ((isOrdering_order hacyclic).forward_of_transGen hreach)

/-- Where an order along the edges that keeps the numbering first differed from the order of the
graph, it would pass over a smaller node. -/
theorem order_eq_of_keepsNumbering (hother : graph.IsOrdering other)
    (hkeeps : graph.KeepsNumbering other) (hacyclic : graph.Acyclic) : graph.order = other := by
  have horder := isOrdering_order hacyclic
  have hturn := (isOrdering_iff.mp hother).1
  have hlength := (hother.perm.trans horder.perm.symm).length_eq
  by_contra hne
  obtain ⟨common, mine, theirs, rest, rest', hmine, htheirs, hlt⟩ :=
    graph.order_leastFirst.lt_of_ne hturn hlength (Ne.symm hne)
  rw [hmine] at horder
  subst htheirs
  have hfront := horder.idxOf_lt_of_not_mem_before hlt.ne hother.not_mem_before
  have hback := hother.idxOf_lt_of_not_mem_before hlt.ne' horder.not_mem_before
  have hunordered : graph.Unordered mine theirs :=
    ⟨fun h => Nat.lt_asymm hback (hother.forward_of_transGen h),
      fun h => Nat.lt_asymm hfront (horder.forward_of_transGen h)⟩
  exact Nat.lt_asymm hback (hkeeps mine theirs hlt hunordered)

end TaskScript.Graph
