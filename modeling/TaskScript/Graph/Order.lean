/-
The order of the nodes along the edges that always takes the least node that is
ready.  Each node waits for as many edges as lead to it; a node that is taken lets go
of its successors.
-/
import TaskScript.Ascending
import TaskScript.Graph.Basic

namespace TaskScript.Graph

variable {n : Nat}

/-- How far the ordering has come. -/
structure Progress (n : Nat) where
  /-- How many edges a node still waits for. -/
  pending : Fin n → Nat
  /-- The nodes that wait for nothing and are not taken yet, in ascending order. -/
  ready : List (Fin n)
  /-- The nodes taken, the last one first. -/
  taken : List (Fin n)

namespace Progress

/-- One edge less for `node` to wait for. -/
def release (progress : Progress n) (node : Fin n) : Progress n :=
  let left := progress.pending node - 1
  { progress with
    pending := fun other => if other = node then left else progress.pending other
    ready := if left = 0 then Ascending.insert node progress.ready else progress.ready }

/-- Takes the least node that is ready. -/
def step (graph : Graph n) (progress : Progress n) : Progress n :=
  match progress.ready with
  | [] => progress
  | node :: ready =>
      (graph.successors node).foldl release
        { progress with ready, taken := node :: progress.taken }

def start (graph : Graph n) : Progress n :=
  { pending := fun node => (graph.predecessors node).length
    ready := (List.finRange n).filter fun node => (graph.predecessors node).isEmpty
    taken := [] }

/-- The progress after a number of steps. -/
def after (graph : Graph n) : Nat → Progress n
  | 0 => start graph
  | steps + 1 => (after graph steps).step graph

end Progress

/-- The nodes in the order they are taken.  Each step takes a node or none are ready, so
as many steps as there are nodes are enough. -/
def order (graph : Graph n) : List (Fin n) :=
  (Progress.after graph n).taken.reverse

example : (Graph.mk [((2 : Fin 3), 0)]).order = [1, 2, 0] := by decide +kernel

end TaskScript.Graph
