/-
Graphs with the same walks.  An edge that a longer walk makes redundant changes how many edges
a node waits for, but not when it is ready: as long as all that leads to a taken node is taken,
a node is ready when all that leads to it is.  So the order of the nodes is the same.
-/
import TaskScript.Proofs.Graph.Progress

namespace TaskScript.Graph

open Relation

variable {n m : Nat} {graph other : Graph n} {part : Fin n → Prop} {taken order : List (Fin n)}

/-- Whatever leads to a node that is taken is taken. -/
def Settled (graph : Graph n) (taken : List (Fin n)) : Prop :=
  ∀ node ∈ taken, ∀ source, TransGen graph.HasEdge source node → source ∈ taken

theorem ready_iff_of_settled (hsettled : graph.Settled taken) {node : Fin n} :
    graph.Ready taken node ↔
      node ∉ taken ∧ ∀ source, TransGen graph.HasEdge source node → source ∈ taken := by
  refine and_congr_right fun _ => ⟨?_, fun hwalks source hedge => hwalks source (.single hedge)⟩
  intro hedges source hreach
  cases hreach with
  | single hedge => exact hedges source hedge
  | tail hbefore hedge => exact hsettled _ (hedges _ hedge) source hbefore

theorem Settled.cons (hsettled : graph.Settled taken) {node : Fin n}
    (hready : graph.Ready taken node) : graph.Settled (node :: taken) := by
  intro target htarget source hreach
  refine List.mem_cons_of_mem node ?_
  rcases List.mem_cons.mp htarget with rfl | htarget
  · exact ((ready_iff_of_settled hsettled).mp hready).2 source hreach
  · exact hsettled target htarget source hreach

theorem ready_iff_of_transGen_iff
    (hsame : ∀ source target,
      TransGen graph.HasEdge source target ↔ TransGen other.HasEdge source target)
    (hsettled : graph.Settled taken) {node : Fin n} :
    other.Ready taken node ↔ graph.Ready taken node := by
  have hother : other.Settled taken :=
    fun target htarget source hreach => hsettled target htarget source ((hsame ..).mpr hreach)
  simp only [ready_iff_of_settled hsettled, ready_iff_of_settled hother, hsame]

theorem LeastFirst.of_transGen_iff
    (hsame : ∀ source target,
      TransGen graph.HasEdge source target ↔ TransGen other.HasEdge source target)
    (hsettled : graph.Settled taken) (hleast : graph.LeastFirst part taken order) :
    other.LeastFirst part taken order := by
  -- At each turn what is taken is settled, so that the same nodes are ready in both graphs.
  induction order generalizing taken with
  | nil =>
      intro node hpart hready
      exact hleast node hpart ((ready_iff_of_transGen_iff hsame hsettled).mp hready)
  | cons node rest ih =>
      refine ⟨?_, ih (hsettled.cons hleast.1.1.2) hleast.2⟩
      simpa only [ready_iff_of_transGen_iff hsame hsettled] using hleast.1

theorem order_eq_of_transGen_iff
    (hsame : ∀ source target,
      TransGen graph.HasEdge source target ↔ TransGen other.HasEdge source target) :
    other.order = graph.order := by
  have hempty : graph.Settled [] := fun _ hnode => absurd hnode List.not_mem_nil
  exact other.order_leastFirst.unique (graph.order_leastFirst.of_transGen_iff hsame hempty)

section Cast

variable {second : Graph m} (hsize : n = m)
  (hsame : ∀ source target, TransGen graph.HasEdge source target ↔
    TransGen second.HasEdge (source.cast hsize) (target.cast hsize))

include hsame

theorem order_eq_map_cast_of_transGen_iff : second.order = graph.order.map (Fin.cast hsize) := by
  subst hsize
  rw [order_eq_of_transGen_iff hsame]
  exact (List.map_id' _).symm

theorem acyclic_cast_iff_of_transGen_iff : second.Acyclic ↔ graph.Acyclic := by
  subst hsize
  exact forall_congr' fun node => not_congr (hsame node node).symm

end Cast

end TaskScript.Graph
