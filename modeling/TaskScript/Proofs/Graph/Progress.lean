/-
The ordering by counts of open edges.  At every moment a node waits for the edges from
nodes not taken and for those of the node just taken that are not let go yet; so no count
falls below zero, the nodes listed as ready are those that are, and the order is the one
that takes the least ready node first.
-/
import Mathlib.Data.List.Count
import TaskScript.Graph.Order
import TaskScript.Proofs.Graph.CycleSearch
import TaskScript.Proofs.Graph.LeastOrder

namespace TaskScript.Graph

variable {n : Nat}

theorem count_successors (graph : Graph n) (source target : Fin n) :
    (graph.successors source).count target = (graph.predecessors target).count source := by
  obtain ⟨edges⟩ := graph
  induction edges with
  | nil => rfl
  | cons edge edges ih =>
      obtain ⟨a, b⟩ := edge
      simp only [successors, predecessors] at ih ⊢
      by_cases ha : a = source <;> by_cases hb : b = target <;> simp [ha, hb, ih]

theorem countP_notMem_cons {nodes taken : List (Fin n)} {node : Fin n} (hnode : node ∉ taken) :
    nodes.countP (· ∉ taken) = nodes.countP (· ∉ node :: taken) + nodes.count node := by
  induction nodes with
  | nil => rfl
  | cons head rest ih =>
      simp only [List.countP_cons, List.count_cons, ih]
      by_cases hhead : head = node
      · simp [hhead, hnode]
        omega
      · simp [hhead]
        omega

namespace Progress

/-- What holds of the progress while the edges to the nodes `owed` are still to be let
go. -/
structure Valid (graph : Graph n) (owed : List (Fin n)) (progress : Progress n) : Prop where
  pending_eq : ∀ node, progress.pending node =
    (graph.predecessors node).countP (· ∉ progress.taken) + owed.count node
  mem_ready : ∀ node, node ∈ progress.ready ↔
    node ∉ progress.taken ∧ progress.pending node = 0
  sorted : Ascending.IsSorted progress.ready
  pending_of_taken : ∀ node ∈ progress.taken, progress.pending node = 0
  nodup : progress.taken.Nodup

@[simp] theorem release_taken (progress : Progress n) (node : Fin n) :
    (progress.release node).taken = progress.taken := rfl

theorem release_pending (progress : Progress n) (node other : Fin n) :
    (progress.release node).pending other =
      if other = node then progress.pending node - 1 else progress.pending other := rfl

theorem release_ready (progress : Progress n) (node : Fin n) :
    (progress.release node).ready =
      if progress.pending node - 1 = 0 then Ascending.insert node progress.ready
      else progress.ready := rfl

theorem valid_start (graph : Graph n) : (start graph).Valid graph [] := by
  refine ⟨?_, ?_, ?_, ?_, ?_⟩
  · intro node
    simp [start]
  · intro node
    simp [start]
  · have hsorted : Ascending.IsSorted (List.finRange n) :=
      (List.pairwise_lt_finRange n).imp fun h => Nat.compare_eq_lt.mpr h
    exact hsorted.sublist List.filter_sublist
  · simp [start]
  · simp [start]

theorem Valid.pending_pos {graph : Graph n} {owed : List (Fin n)} {node : Fin n}
    {progress : Progress n} (hvalid : progress.Valid graph (node :: owed)) :
    0 < progress.pending node := by
  rw [hvalid.pending_eq, List.count_cons_self]
  omega

/-- Letting an edge go. -/
theorem Valid.release {graph : Graph n} {owed : List (Fin n)} {node : Fin n}
    {progress : Progress n} (hvalid : progress.Valid graph (node :: owed)) :
    (progress.release node).Valid graph owed := by
  have hpos := hvalid.pending_pos
  have htaken : node ∉ progress.taken := fun h => by
    rw [hvalid.pending_of_taken node h] at hpos
    omega
  have hready : node ∉ progress.ready := fun h => by
    rw [((hvalid.mem_ready node).mp h).2] at hpos
    omega
  refine ⟨?_, ?_, ?_, ?_, hvalid.nodup⟩
  · intro other
    have hother := hvalid.pending_eq other
    rw [release_pending, release_taken]
    by_cases h : other = node
    · subst h
      rw [List.count_cons_self] at hother
      rw [if_pos rfl]
      omega
    · rw [if_neg h]
      rwa [List.count_cons_of_ne (Ne.symm h)] at hother
  · intro other
    rw [release_pending, release_ready, release_taken]
    by_cases h : other = node
    · subst h
      rw [if_pos rfl]
      split <;> rename_i hleft <;> simp [hleft, htaken, hready]
    · rw [if_neg h]
      split
      · rw [Ascending.mem_insert_iff, or_iff_right h, hvalid.mem_ready]
      · exact hvalid.mem_ready other
  · rw [release_ready]
    split
    · exact Ascending.isSorted_insert hvalid.sorted
    · exact hvalid.sorted
  · intro other hother
    have hne : other ≠ node := fun h => htaken (h ▸ hother)
    rw [release_pending, if_neg hne]
    exact hvalid.pending_of_taken other hother

/-- The progress at the moment when `node` is taken and the edges to the nodes `released`
are let go. -/
def midway (progress : Progress n) (node : Fin n) (ready released : List (Fin n)) : Progress n :=
  released.foldl release { progress with ready, taken := node :: progress.taken }

theorem step_eq_midway {graph : Graph n} {progress : Progress n} {node : Fin n}
    {ready : List (Fin n)} (hready : progress.ready = node :: ready) :
    progress.step graph = progress.midway node ready (graph.successors node) := by
  simp only [step, hready, midway]

@[simp] theorem midway_taken (progress : Progress n) (node : Fin n)
    (ready released : List (Fin n)) :
    (progress.midway node ready released).taken = node :: progress.taken := by
  unfold midway
  induction released using List.reverseRecOn with
  | nil => rfl
  | append_singleton released other ih => simpa using ih

/-- Taking a ready node makes every edge from it owed. -/
theorem Valid.take {graph : Graph n} {progress : Progress n} {node : Fin n}
    {ready : List (Fin n)} (hvalid : progress.Valid graph [])
    (hready : progress.ready = node :: ready) :
    (progress.midway node ready []).Valid graph (graph.successors node) := by
  obtain ⟨hnew, hpending⟩ := (hvalid.mem_ready node).mp (by simp [hready])
  have hsorted := hvalid.sorted
  rw [hready] at hsorted
  obtain ⟨hhead, hrest⟩ := List.pairwise_cons.mp hsorted
  have hnode : node ∉ ready := fun h => by simpa using hhead node h
  refine ⟨?_, ?_, hrest, ?_, List.nodup_cons.mpr ⟨hnew, hvalid.nodup⟩⟩
  · intro other
    have hother := hvalid.pending_eq other
    rw [countP_notMem_cons hnew, ← count_successors] at hother
    simpa [midway] using hother
  · intro other
    have hother := hvalid.mem_ready other
    rw [hready, List.mem_cons] at hother
    by_cases h : other = node
    · subst h
      simp [midway, hnode]
    · simpa [midway, h] using hother
  · intro other hother
    rcases List.mem_cons.mp hother with rfl | hother
    · exact hpending
    · exact hvalid.pending_of_taken other hother

theorem Valid.midway {graph : Graph n} {progress : Progress n} {node : Fin n}
    {ready released owed : List (Fin n)} (hvalid : progress.Valid graph [])
    (hready : progress.ready = node :: ready)
    (hsplit : graph.successors node = released ++ owed) :
    (progress.midway node ready released).Valid graph owed := by
  induction released using List.reverseRecOn generalizing owed with
  | nil =>
      rw [List.nil_append] at hsplit
      exact hsplit ▸ hvalid.take hready
  | append_singleton released other ih =>
      have hbefore : (progress.midway node ready released).Valid graph (other :: owed) :=
        ih (by simpa using hsplit)
      simpa [Progress.midway] using hbefore.release

theorem Valid.step {graph : Graph n} {progress : Progress n} (hvalid : progress.Valid graph []) :
    (progress.step graph).Valid graph [] := by
  cases hready : progress.ready with
  | nil => simpa only [Progress.step, hready] using hvalid
  | cons node ready =>
      rw [step_eq_midway hready]
      exact hvalid.midway hready (List.append_nil _).symm

theorem valid_after (graph : Graph n) (steps : Nat) : (after graph steps).Valid graph [] := by
  induction steps with
  | zero => exact valid_start graph
  | succ steps ih => exact ih.step

theorem Valid.mem_ready_iff {graph : Graph n} {progress : Progress n}
    (hvalid : progress.Valid graph []) (node : Fin n) :
    node ∈ progress.ready ↔ graph.Ready progress.taken node := by
  rw [hvalid.mem_ready, hvalid.pending_eq]
  simp [Ready]

/-- The first of the ready nodes is the least. -/
theorem Valid.isLeast {graph : Graph n} {progress : Progress n} {node : Fin n}
    {ready : List (Fin n)} (hvalid : progress.Valid graph [])
    (hready : progress.ready = node :: ready) :
    IsLeast {other | True ∧ graph.Ready progress.taken other} node := by
  have hsorted := hvalid.sorted
  rw [hready] at hsorted
  refine ⟨⟨trivial, (hvalid.mem_ready_iff node).mp (by simp [hready])⟩, ?_⟩
  rintro other ⟨_, hother⟩
  rw [← hvalid.mem_ready_iff, hready] at hother
  rcases List.mem_cons.mp hother with rfl | hother
  · exact le_refl other
  · exact le_of_lt (Nat.compare_eq_lt.mp ((List.pairwise_cons.mp hsorted).1 other hother))

/-- What is taken by steps and goes on by taking the least ready node was so taken from
the start. -/
theorem leastFirst_after {graph : Graph n} {steps : Nat} {rest : List (Fin n)}
    (hrest : graph.LeastFirst (fun _ => True) (after graph steps).taken rest) :
    graph.LeastFirst (fun _ => True) [] ((after graph steps).taken.reverse ++ rest) := by
  induction steps generalizing rest with
  | zero => exact hrest
  | succ steps ih =>
      rw [after] at hrest ⊢
      cases hready : (after graph steps).ready with
      | nil =>
          simp only [Progress.step, hready] at hrest ⊢
          exact ih hrest
      | cons node ready =>
          rw [step_eq_midway hready, midway_taken] at hrest ⊢
          have hleast := (valid_after graph steps).isLeast hready
          have hnode : graph.LeastFirst (fun _ => True) (after graph steps).taken
              (node :: rest) := ⟨hleast, hrest⟩
          simpa using ih hnode

/-- Each step takes a node, until none is ready. -/
theorem ready_eq_nil_or_length (graph : Graph n) (steps : Nat) :
    (after graph steps).ready = [] ∨ (after graph steps).taken.length = steps := by
  induction steps with
  | zero => exact Or.inr rfl
  | succ steps ih =>
      rw [after]
      cases hready : (after graph steps).ready with
      | nil => exact Or.inl (by simp only [Progress.step, hready])
      | cons node ready =>
          right
          have hlength := ih.resolve_left (by simp [hready])
          rw [step_eq_midway hready, midway_taken, List.length_cons, hlength]

/-- As many steps as there are nodes leave none ready. -/
theorem ready_after_eq_nil (graph : Graph n) : (after graph n).ready = [] := by
  rcases ready_eq_nil_or_length graph n with h | hlength
  · exact h
  · have hvalid := valid_after graph n
    rw [List.eq_nil_iff_forall_not_mem]
    intro node hnode
    have hlist : (node :: (after graph n).taken).Nodup :=
      List.nodup_cons.mpr ⟨((hvalid.mem_ready node).mp hnode).1, hvalid.nodup⟩
    have hcard := hlist.length_le_card
    rw [List.length_cons, hlength, Fintype.card_fin] at hcard
    omega

end Progress

theorem order_leastFirst (graph : Graph n) :
    graph.LeastFirst (fun _ => True) [] graph.order := by
  have hexhausted : graph.LeastFirst (fun _ => True) (Progress.after graph n).taken [] := by
    intro node _ hready
    rw [← (Progress.valid_after graph n).mem_ready_iff, Progress.ready_after_eq_nil] at hready
    simp at hready
  simpa [order] using Progress.leastFirst_after hexhausted

theorem isOrdering_order {graph : Graph n} (hacyclic : graph.Acyclic) :
    graph.IsOrdering graph.order :=
  graph.order_leastFirst.isOrdering hacyclic

/-- A part that no edge leads into from outside stands in the same order in every graph
with the same edges into the part. -/
theorem order_filter_eq {graph inner : Graph n} {part : Fin n → Prop} [DecidablePred part]
    (hclosed : ∀ source target, part target → graph.HasEdge source target → part source)
    (hedges : ∀ source target, part target →
      (inner.HasEdge source target ↔ graph.HasEdge source target)) :
    graph.order.filter part = inner.order.filter part := by
  have hclosed' : ∀ source target, part target → inner.HasEdge source target → part source :=
    fun source target htarget hedge =>
      hclosed source target htarget ((hedges source target htarget).mp hedge)
  have hgraph : inner.LeastFirst part [] (graph.order.filter part) :=
    graph.order_leastFirst.filter hclosed hedges fun _ _ => Iff.rfl
  have hinner : inner.LeastFirst part [] (inner.order.filter part) :=
    inner.order_leastFirst.filter hclosed' (fun _ _ _ => Iff.rfl) fun _ _ => Iff.rfl
  exact hgraph.unique hinner

/-- The order of an acyclic graph lists all nodes along the edges, and where any other
such list first differs from it, the order has the lesser node.  Whatever the graph, no
node that is let go waits for nothing. -/
theorem order_isLeast (graph : Graph n) :
    (graph.Acyclic →
      graph.IsOrdering graph.order ∧
        ∀ other, graph.IsOrdering other → other ≠ graph.order →
          ∃ common mine theirs rest rest', graph.order = common ++ mine :: rest ∧
            other = common ++ theirs :: rest' ∧ mine < theirs) ∧
      ∀ steps node ready, (Progress.after graph steps).ready = node :: ready →
        ∀ released next owed, graph.successors node = released ++ next :: owed →
          0 < ((Progress.after graph steps).midway node ready released).pending next := by
  refine ⟨?_, ?_⟩
  · intro hacyclic
    have horder := isOrdering_order hacyclic
    refine ⟨horder, ?_⟩
    intro other hother hne
    have hturn := (isOrdering_iff.mp hother).1
    have hlength := (hother.perm.trans horder.perm.symm).length_eq
    exact graph.order_leastFirst.lt_of_ne hturn hlength hne
  · intro steps node ready hready released next owed hsplit
    exact ((Progress.valid_after graph steps).midway hready hsplit).pending_pos

/-- Two ways from the node declared last to the first. -/
def diamond : Graph 4 := ⟨[(2, 0), (1, 0), (3, 2), (3, 1)]⟩

theorem order_isLeast_diamond :
    diamond.Acyclic ∧ diamond.IsOrdering diamond.order ∧
      diamond.IsOrdering [3, 2, 1, 0] ∧ [3, 2, 1, 0] ≠ diamond.order ∧
      ∃ common mine theirs rest rest', diamond.order = common ++ mine :: rest ∧
        [3, 2, 1, 0] = common ++ theirs :: rest' ∧ mine < theirs := by
  have hacyclic : diamond.Acyclic := (findCycle?_eq_none_iff diamond).mp (by cbv)
  have hother : diamond.IsOrdering [3, 2, 1, 0] := ⟨by decide, by decide⟩
  have hne : [3, 2, 1, 0] ≠ diamond.order := by decide
  obtain ⟨horder, hleast⟩ := (order_isLeast diamond).1 hacyclic
  exact ⟨hacyclic, horder, hother, hne, hleast _ hother hne⟩

end TaskScript.Graph
