/-
Orders of the nodes along the edges.  One that takes in each turn the least node that is
ready is the first of them all in the order of lists, and what it does with a part of the
graph that nothing leads into from outside depends on the edges of that part alone.
-/
import Mathlib.Order.Bounds.Basic
import Mathlib.Data.List.Perm.Basic
import TaskScript.Proofs.Graph.Walk

namespace TaskScript.Graph

open Relation

variable {n : Nat}

/-- A list of all nodes, each once, in which every edge leads forward. -/
structure IsOrdering (graph : Graph n) (order : List (Fin n)) : Prop where
  perm : order.Perm (List.finRange n)
  forward : ∀ source target, graph.HasEdge source target →
    order.idxOf source < order.idxOf target

/-- A node that is not taken and to which only edges from taken nodes lead. -/
def Ready (graph : Graph n) (taken : List (Fin n)) (node : Fin n) : Prop :=
  node ∉ taken ∧ ∀ source, graph.HasEdge source node → source ∈ taken

/-- Each listed node is ready when its turn comes. -/
def InTurn (graph : Graph n) : List (Fin n) → List (Fin n) → Prop
  | _, [] => True
  | taken, node :: rest => graph.Ready taken node ∧ graph.InTurn (node :: taken) rest

/-- Each listed node is the least of a part of the graph that is ready when its turn
comes, and in the end none of the part is ready. -/
def LeastFirst (graph : Graph n) (part : Fin n → Prop) :
    List (Fin n) → List (Fin n) → Prop
  | taken, [] => ∀ node, part node → ¬ graph.Ready taken node
  | taken, node :: rest =>
      IsLeast {other | part other ∧ graph.Ready taken other} node ∧
        graph.LeastFirst part (node :: taken) rest

theorem InTurn.not_mem_taken {graph : Graph n} {taken order : List (Fin n)}
    (hturn : graph.InTurn taken order) {node : Fin n} (hnode : node ∈ order) :
    node ∉ taken := by
  induction order generalizing taken with
  | nil => simp at hnode
  | cons head rest ih =>
      rcases List.mem_cons.mp hnode with rfl | hnode
      · exact hturn.1.1
      · intro htaken
        exact ih hturn.2 hnode (List.mem_cons_of_mem head htaken)

theorem InTurn.nodup {graph : Graph n} {taken order : List (Fin n)}
    (hturn : graph.InTurn taken order) : order.Nodup := by
  induction order generalizing taken with
  | nil => exact List.nodup_nil
  | cons head rest ih =>
      refine List.nodup_cons.mpr ⟨?_, ih hturn.2⟩
      intro hhead
      exact hturn.2.not_mem_taken hhead List.mem_cons_self

/-- What leads to a node was taken before or stands in front of it. -/
theorem InTurn.mem_of_edge {graph : Graph n} {taken before after : List (Fin n)}
    {source target : Fin n} (hturn : graph.InTurn taken (before ++ target :: after))
    (hedge : graph.HasEdge source target) : source ∈ taken ∨ source ∈ before := by
  induction before generalizing taken with
  | nil => exact Or.inl (hturn.1.2 source hedge)
  | cons head before ih =>
      rcases ih hturn.2 with h | h
      · rcases List.mem_cons.mp h with rfl | h
        · exact Or.inr List.mem_cons_self
        · exact Or.inl h
      · exact Or.inr (List.mem_cons_of_mem head h)

theorem idxOf_lt_of_mem_before {before after : List (Fin n)} {source target : Fin n}
    (hnodup : (before ++ target :: after).Nodup) (hsource : source ∈ before) :
    (before ++ target :: after).idxOf source < (before ++ target :: after).idxOf target := by
  have htarget : target ∉ before := fun h =>
    (List.nodup_append.mp hnodup).2.2 target h target List.mem_cons_self rfl
  rw [List.idxOf_append_of_mem hsource, List.idxOf_append_of_notMem htarget]
  have hlt := List.idxOf_lt_length_of_mem hsource
  omega

theorem mem_before_of_idxOf_lt {before after : List (Fin n)} {source target : Fin n}
    (hlt : (before ++ target :: after).idxOf source < (before ++ target :: after).idxOf target) :
    source ∈ before := by
  by_contra hsource
  by_cases htarget : target ∈ before
  · rw [List.idxOf_append_of_notMem hsource, List.idxOf_append_of_mem htarget] at hlt
    have hbefore := List.idxOf_lt_length_of_mem htarget
    omega
  · rw [List.idxOf_append_of_notMem hsource, List.idxOf_append_of_notMem htarget,
      List.idxOf_cons_self] at hlt
    omega

theorem IsOrdering.mem {graph : Graph n} {order : List (Fin n)} (horder : graph.IsOrdering order)
    (node : Fin n) : node ∈ order :=
  horder.perm.mem_iff.mpr (List.mem_finRange node)

theorem IsOrdering.nodup {graph : Graph n} {order : List (Fin n)}
    (horder : graph.IsOrdering order) : order.Nodup :=
  horder.perm.nodup_iff.mpr (List.nodup_finRange n)

theorem IsOrdering.forward_of_transGen {graph : Graph n} {order : List (Fin n)}
    (horder : graph.IsOrdering order) {source target : Fin n}
    (hreach : TransGen graph.HasEdge source target) :
    order.idxOf source < order.idxOf target := by
  induction hreach with
  | single hedge => exact horder.forward _ _ hedge
  | tail _ hedge ih => exact ih.trans (horder.forward _ _ hedge)

theorem IsOrdering.mem_before_of_transGen {graph : Graph n} {before after : List (Fin n)}
    {source target : Fin n} (horder : graph.IsOrdering (before ++ target :: after))
    (hreach : TransGen graph.HasEdge source target) : source ∈ before :=
  mem_before_of_idxOf_lt (horder.forward_of_transGen hreach)

/-- Nothing leads from behind a node to what stands in front of it. -/
theorem IsOrdering.mem_before_of_hasEdge {graph : Graph n} {before after : List (Fin n)}
    {node source target : Fin n} (horder : graph.IsOrdering (before ++ node :: after))
    (htarget : target ∈ before) (hedge : graph.HasEdge source target) : source ∈ before := by
  have hnode := idxOf_lt_of_mem_before horder.nodup htarget
  exact mem_before_of_idxOf_lt ((horder.forward source target hedge).trans hnode)

theorem IsOrdering.not_mem_before {graph : Graph n} {before after : List (Fin n)}
    {node : Fin n} (horder : graph.IsOrdering (before ++ node :: after)) : node ∉ before :=
  fun hnode => Nat.lt_irrefl _ (idxOf_lt_of_mem_before horder.nodup hnode)

theorem IsOrdering.inTurn_of_append {graph : Graph n} {before after : List (Fin n)}
    (horder : graph.IsOrdering (before ++ after)) : graph.InTurn before.reverse after := by
  induction after generalizing before with
  | nil => trivial
  | cons node after ih =>
      refine ⟨⟨?_, ?_⟩, ?_⟩
      · rw [List.mem_reverse]
        intro hbefore
        exact (List.nodup_append.mp horder.nodup).2.2 node hbefore node List.mem_cons_self rfl
      · intro source hedge
        rw [List.mem_reverse]
        exact mem_before_of_idxOf_lt (horder.forward source node hedge)
      · have hsplit : before ++ node :: after = before ++ [node] ++ after := by simp
        rw [hsplit] at horder
        simpa using ih horder

/-- Taking every node in its turn is to list all nodes along the edges. -/
theorem isOrdering_iff {graph : Graph n} {order : List (Fin n)} :
    graph.IsOrdering order ↔ graph.InTurn [] order ∧ ∀ node, node ∈ order := by
  constructor
  · intro horder
    have hsplit : graph.IsOrdering ([] ++ order) := horder
    exact ⟨hsplit.inTurn_of_append, horder.mem⟩
  · rintro ⟨hturn, hmem⟩
    refine ⟨?_, ?_⟩
    · rw [List.perm_ext_iff_of_nodup hturn.nodup (List.nodup_finRange n)]
      intro node
      simp [hmem node]
    · intro source target hedge
      obtain ⟨before, after, rfl⟩ := List.append_of_mem (hmem target)
      apply idxOf_lt_of_mem_before hturn.nodup
      rcases hturn.mem_of_edge hedge with h | h
      · simp at h
      · exact h

theorem LeastFirst.inTurn {graph : Graph n} {part : Fin n → Prop} {taken order : List (Fin n)}
    (hleast : graph.LeastFirst part taken order) : graph.InTurn taken order := by
  induction order generalizing taken with
  | nil => trivial
  | cons node rest ih => exact ⟨hleast.1.1.2, ih hleast.2⟩

theorem LeastFirst.isLeast {graph : Graph n} {part : Fin n → Prop}
    {taken before after : List (Fin n)} {node : Fin n}
    (hleast : graph.LeastFirst part taken (before ++ node :: after)) :
    IsLeast {other | part other ∧ graph.Ready (before.reverse ++ taken) other} node := by
  induction before generalizing taken with
  | nil => exact hleast.1
  | cons head before ih => simpa using ih hleast.2

theorem LeastFirst.exhausted {graph : Graph n} {part : Fin n → Prop}
    {taken order : List (Fin n)} (hleast : graph.LeastFirst part taken order) :
    ∀ node, part node → ¬ graph.Ready (order.reverse ++ taken) node := by
  induction order generalizing taken with
  | nil => exact hleast
  | cons head rest ih => simpa using ih hleast.2

/-- Where a node of an acyclic graph is not taken, it is ready or something that leads to it is. -/
theorem Acyclic.exists_ready {graph : Graph n} (hacyclic : graph.Acyclic)
    {taken : List (Fin n)} {node : Fin n} (hnode : node ∉ taken) :
    ∃ source, ReflTransGen graph.HasEdge source node ∧ graph.Ready taken source := by
  induction node using hacyclic.wellFounded.induction with
  | h node ih =>
      by_cases hsources : ∀ source, graph.HasEdge source node → source ∈ taken
      · exact ⟨node, .refl, hnode, hsources⟩
      · push Not at hsources
        obtain ⟨source, hedge, hsource⟩ := hsources
        obtain ⟨first, hreach, hready⟩ := ih source (.single hedge) hsource
        exact ⟨first, hreach.tail hedge, hready⟩

/-- Where no node is ready any more, all nodes of an acyclic graph are taken. -/
theorem Acyclic.mem_of_exhausted {graph : Graph n} (hacyclic : graph.Acyclic)
    {taken : List (Fin n)} (hexhausted : ∀ node, ¬ graph.Ready taken node) (node : Fin n) :
    node ∈ taken := by
  by_contra hnode
  obtain ⟨source, _, hready⟩ := hacyclic.exists_ready hnode
  exact hexhausted source hready

theorem LeastFirst.isOrdering {graph : Graph n} (hacyclic : graph.Acyclic)
    {order : List (Fin n)} (hleast : graph.LeastFirst (fun _ => True) [] order) :
    graph.IsOrdering order := by
  refine isOrdering_iff.mpr ⟨hleast.inTurn, ?_⟩
  intro node
  have hexhausted : ∀ other, ¬ graph.Ready order.reverse other := by
    simpa using hleast.exhausted
  simpa using hacyclic.mem_of_exhausted hexhausted node

/-- Where another order first takes a different node, that node is a later one. -/
theorem LeastFirst.lt_of_ne {graph : Graph n} {taken order other : List (Fin n)}
    (hleast : graph.LeastFirst (fun _ => True) taken order)
    (hturn : graph.InTurn taken other) (hlength : other.length = order.length)
    (hne : other ≠ order) :
    ∃ common mine theirs rest rest', order = common ++ mine :: rest ∧
      other = common ++ theirs :: rest' ∧ mine < theirs := by
  induction order generalizing taken other with
  | nil => exact absurd (List.length_eq_zero_iff.mp hlength) hne
  | cons mine rest ih =>
      cases other with
      | nil => simp at hlength
      | cons theirs rest' =>
          by_cases hsame : theirs = mine
          · subst hsame
            have hrest : rest' ≠ rest := fun h => hne (by rw [h])
            obtain ⟨common, a, b, after, after', horder, hother, hlt⟩ :=
              ih hleast.2 hturn.2 (by simpa using hlength) hrest
            exact ⟨theirs :: common, a, b, after, after', by simp [horder], by simp [hother], hlt⟩
          · have hle : mine ≤ theirs := hleast.1.2 ⟨trivial, hturn.1⟩
            exact ⟨[], mine, theirs, rest, rest', rfl, rfl, lt_of_le_of_ne hle (Ne.symm hsame)⟩

/-- Two such orders of the same part are the same. -/
theorem LeastFirst.unique {graph : Graph n} {part : Fin n → Prop}
    {taken first second : List (Fin n)} (hfirst : graph.LeastFirst part taken first)
    (hsecond : graph.LeastFirst part taken second) : first = second := by
  induction first generalizing taken second with
  | nil =>
      cases second with
      | nil => rfl
      | cons node rest => exact absurd hsecond.1.1.2 (hfirst node hsecond.1.1.1)
  | cons node rest ih =>
      cases second with
      | nil => exact absurd hfirst.1.1.2 (hsecond node hfirst.1.1.1)
      | cons node' rest' =>
          obtain rfl := hfirst.1.unique hsecond.1
          rw [ih hfirst.2 hsecond.2]

section Part

variable {graph inner : Graph n} {part : Fin n → Prop}

/-- Whether a node of a closed part is ready depends on what is taken of the part. -/
theorem ready_iff_of_closed
    (hclosed : ∀ source target, part target → graph.HasEdge source target → part source)
    (hedges : ∀ source target, part target →
      (inner.HasEdge source target ↔ graph.HasEdge source target))
    {taken taken' : List (Fin n)} (htaken : ∀ node, part node → (node ∈ taken ↔ node ∈ taken'))
    {node : Fin n} (hnode : part node) :
    inner.Ready taken' node ↔ graph.Ready taken node := by
  unfold Ready
  rw [htaken node hnode]
  refine and_congr_right fun _ => forall_congr' fun source => ?_
  rw [hedges source node hnode]
  refine forall_congr' fun hedge => ?_
  rw [htaken source (hclosed source node hnode hedge)]

/-- A part that nothing leads into from outside is taken in the order that its own edges
give it. -/
theorem LeastFirst.filter [DecidablePred part]
    (hclosed : ∀ source target, part target → graph.HasEdge source target → part source)
    (hedges : ∀ source target, part target →
      (inner.HasEdge source target ↔ graph.HasEdge source target))
    {taken taken' order : List (Fin n)}
    (htaken : ∀ node, part node → (node ∈ taken ↔ node ∈ taken'))
    (hleast : graph.LeastFirst (fun _ => True) taken order) :
    inner.LeastFirst part taken' (order.filter part) := by
  induction order generalizing taken taken' with
  | nil =>
      intro node hnode hready
      exact hleast node trivial ((ready_iff_of_closed hclosed hedges htaken hnode).mp hready)
  | cons head rest ih =>
      obtain ⟨⟨hready, hlower⟩, hrest⟩ := hleast
      by_cases hhead : part head
      · rw [List.filter_cons_of_pos (by simpa using hhead)]
        refine ⟨⟨⟨hhead, ?_⟩, ?_⟩, ih ?_ hrest⟩
        · exact (ready_iff_of_closed hclosed hedges htaken hhead).mpr hready.2
        · rintro other ⟨hother, hinner⟩
          exact hlower ⟨trivial, (ready_iff_of_closed hclosed hedges htaken hother).mp hinner⟩
        · intro node hnode
          rw [List.mem_cons, List.mem_cons, htaken node hnode]
      · rw [List.filter_cons_of_neg (by simpa using hhead)]
        refine ih ?_ hrest
        intro node hnode
        have hne : node ≠ head := fun h => hhead (h ▸ hnode)
        rw [List.mem_cons, or_iff_right hne, htaken node hnode]

end Part

end TaskScript.Graph
