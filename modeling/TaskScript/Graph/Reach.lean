/-
Everything from which a node can be reached, by a search against the edges.
-/
import TaskScript.Graph.Basic

namespace TaskScript.Graph

variable {n : Nat}

/-- Adds to `seen` every node from which a node of `waiting` is reached by edges that
avoid `seen`. -/
def gather (graph : Graph n) (seen : List (Fin n)) : List (Fin n) → List (Fin n)
  | [] => seen
  | node :: waiting =>
      if node ∈ seen then gather graph seen waiting
      else gather graph (node :: seen) (graph.predecessors node ++ waiting)
termination_by waiting => ((missing seen).length, waiting.length)
decreasing_by
  · exact Prod.Lex.right _ (by simp)
  · exact Prod.Lex.left _ _ (length_missing_lt ‹_›)

/-- The node itself and all nodes from which it is reached. -/
def ancestors (graph : Graph n) (node : Fin n) : List (Fin n) :=
  graph.gather [] [node]

example : (Graph.mk [((0 : Fin 3), 1), (1, 2)]).ancestors 1 = [0, 1] := by cbv

end TaskScript.Graph
