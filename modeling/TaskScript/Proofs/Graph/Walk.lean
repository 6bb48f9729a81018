/-
Walks along the edges of a graph.  A graph is acyclic when no walk returns to the node
it starts from, and the ancestors that the search gathers are exactly the nodes from which
a walk leads to the node asked for.
-/
import Mathlib.Data.Fintype.EquivFin
import Mathlib.Data.List.Chain
import Mathlib.Logic.Relation
import TaskScript.Graph.Reach

namespace TaskScript.Graph

open Relation

variable {n : Nat}

def Acyclic (graph : Graph n) : Prop :=
  ∀ node, ¬ TransGen graph.HasEdge node node

/-- A walk that ends where it starts and meets no node twice before. -/
structure IsCycle (graph : Graph n) (nodes : List (Fin n)) : Prop where
  two_le_length : 2 ≤ nodes.length
  closed : nodes.head? = nodes.getLast?
  nodup : nodes.dropLast.Nodup
  walk : nodes.IsChain graph.HasEdge

theorem IsCycle.not_acyclic {graph : Graph n} {nodes : List (Fin n)}
    (hcycle : graph.IsCycle nodes) : ¬ graph.Acyclic := by
  obtain ⟨hlength, hclosed, _, hwalk⟩ := hcycle
  match nodes with
  | [] => simp at hlength
  | [_] => simp at hlength
  | first :: second :: rest =>
      obtain ⟨hedge, hrest⟩ := List.isChain_cons_cons.mp hwalk
      have hreach : ReflTransGen graph.HasEdge second ((second :: rest).getLast (by simp)) :=
        List.relationReflTransGen_of_exists_isChain_cons rest hrest rfl
      have hlast : (second :: rest).getLast (by simp) = first := by
        rw [List.getLast?_cons_cons, List.getLast?_eq_some_getLast (by simp)] at hclosed
        exact (Option.some.inj hclosed).symm
      intro hacyclic
      rw [hlast] at hreach
      exact hacyclic first (TransGen.head' hedge hreach)

theorem Acyclic.wellFounded {graph : Graph n} (hacyclic : graph.Acyclic) :
    WellFounded (TransGen graph.HasEdge) := by
  have : Std.Irrefl (TransGen graph.HasEdge) := ⟨hacyclic⟩
  exact Finite.wellFounded_of_trans_of_irrefl _

/-- Only the edges on walks that return matter for a cycle. -/
theorem Acyclic.of_returns {graph inner : Graph n} (hacyclic : inner.Acyclic)
    (hedges : ∀ source target, graph.HasEdge source target →
      ReflTransGen graph.HasEdge target source → inner.HasEdge source target) :
    graph.Acyclic := by
  have hwalk : ∀ source target, TransGen graph.HasEdge source target →
      ReflTransGen graph.HasEdge target source → TransGen inner.HasEdge source target := by
    intro source target hreach
    induction hreach with
    | single hedge => exact fun hback => .single (hedges _ _ hedge hback)
    | tail hbefore hedge ih =>
        intro hback
        have hinner := ih (hback.head hedge)
        exact hinner.tail (hedges _ _ hedge (hback.trans hbefore.to_reflTransGen))
  exact fun node hcycle => hacyclic node (hwalk node node hcycle .refl)

theorem Acyclic.mono {graph marked : Graph n} (hacyclic : marked.Acyclic)
    (hedges : ∀ source target, graph.HasEdge source target → marked.HasEdge source target) :
    graph.Acyclic :=
  fun node hcycle => hacyclic node (TransGen.mono hedges node node hcycle)

theorem seen_or_waiting_of_mem {seen waiting : List (Fin n)} {head node : Fin n}
    (hhead : head ∈ seen) (hnode : node ∈ seen ∨ node ∈ head :: waiting) :
    node ∈ seen ∨ node ∈ waiting := by
  rcases hnode with hseen | hwaiting
  · exact Or.inl hseen
  · rcases List.mem_cons.mp hwaiting with rfl | hwaiting
    · exact Or.inl hhead
    · exact Or.inr hwaiting

theorem seen_or_waiting_cons {graph : Graph n} {seen waiting : List (Fin n)}
    {head node : Fin n} (hnode : node ∈ seen ∨ node ∈ head :: waiting) :
    node ∈ head :: seen ∨ node ∈ graph.predecessors head ++ waiting := by
  rcases hnode with hseen | hwaiting
  · exact Or.inl (List.mem_cons_of_mem head hseen)
  · rcases List.mem_cons.mp hwaiting with rfl | hwaiting
    · exact Or.inl List.mem_cons_self
    · exact Or.inr (List.mem_append.mpr (Or.inr hwaiting))

theorem mem_gather_of_mem {graph : Graph n} {seen waiting : List (Fin n)} {node : Fin n}
    (hnode : node ∈ seen ∨ node ∈ waiting) : node ∈ graph.gather seen waiting := by
  fun_induction gather graph seen waiting with
  | case1 seen => simpa using hnode
  | case2 seen head waiting hhead ih => exact ih (seen_or_waiting_of_mem hhead hnode)
  | case3 seen head waiting hhead ih => exact ih (seen_or_waiting_cons hnode)

/-- What is gathered was seen before or leads to a node that was waiting. -/
theorem reaches_of_mem_gather {graph : Graph n} {seen waiting : List (Fin n)} {node : Fin n}
    (hnode : node ∈ graph.gather seen waiting) :
    node ∈ seen ∨ ∃ target ∈ waiting, ReflTransGen graph.HasEdge node target := by
  fun_induction gather graph seen waiting with
  | case1 seen => exact Or.inl hnode
  | case2 seen head waiting hhead ih =>
      rcases ih hnode with hseen | ⟨target, htarget, hreach⟩
      · exact Or.inl hseen
      · exact Or.inr ⟨target, List.mem_cons_of_mem head htarget, hreach⟩
  | case3 seen head waiting hhead ih =>
      rcases ih hnode with hseen | ⟨target, htarget, hreach⟩
      · rcases List.mem_cons.mp hseen with rfl | hseen
        · exact Or.inr ⟨node, List.mem_cons_self, .refl⟩
        · exact Or.inl hseen
      · right
        rcases List.mem_append.mp htarget with hedge | hwaiting
        · exact ⟨head, List.mem_cons_self, hreach.tail (mem_predecessors.mp hedge)⟩
        · exact ⟨target, List.mem_cons_of_mem head hwaiting, hreach⟩

/-- Nothing leads from outside into what is gathered. -/
theorem gather_closed {graph : Graph n} {seen waiting : List (Fin n)}
    (hseen : ∀ target ∈ seen, ∀ source, graph.HasEdge source target →
      source ∈ seen ∨ source ∈ waiting) :
    ∀ target ∈ graph.gather seen waiting, ∀ source, graph.HasEdge source target →
      source ∈ graph.gather seen waiting := by
  fun_induction gather graph seen waiting with
  | case1 seen => simpa using hseen
  | case2 seen head waiting hhead ih =>
      apply ih
      intro target htarget source hedge
      exact seen_or_waiting_of_mem hhead (hseen target htarget source hedge)
  | case3 seen head waiting hhead ih =>
      apply ih
      intro target htarget source hedge
      rcases List.mem_cons.mp htarget with rfl | htarget
      · exact Or.inr (List.mem_append.mpr (Or.inl (mem_predecessors.mpr hedge)))
      · exact seen_or_waiting_cons (hseen target htarget source hedge)

theorem mem_ancestors_iff {graph : Graph n} {source target : Fin n} :
    source ∈ graph.ancestors target ↔ ReflTransGen graph.HasEdge source target := by
  constructor
  · intro hsource
    rcases reaches_of_mem_gather hsource with hseen | ⟨node, hnode, hreach⟩
    · simp at hseen
    · rwa [List.mem_singleton.mp hnode] at hreach
  · intro hreach
    have hclosed : ∀ node ∈ graph.ancestors target, ∀ before, graph.HasEdge before node →
        before ∈ graph.ancestors target := gather_closed (by simp)
    induction hreach using ReflTransGen.head_induction_on with
    | refl => exact mem_gather_of_mem (Or.inr List.mem_cons_self)
    | head hedge _ ih => exact hclosed _ ih _ hedge

end TaskScript.Graph
