/-
Search for a cycle in depth, with three colours.  The path holds the nodes that were
entered and are not left yet, and the stack what each of them still has to look at.  An
edge to a gray node closes a cycle, which is then read off the path.
-/
import TaskScript.Graph.Basic

namespace TaskScript.Graph

variable {n : Nat}

/-- White before a node is entered, gray while it is on the path, black once it is left. -/
inductive Color where
  | white
  | gray
  | black
  deriving DecidableEq, Repr

def paint (color : Fin n → Color) (node : Fin n) (shade : Color) : Fin n → Color :=
  fun other => if other = node then shade else color other

/-- How far the search has come. -/
structure Search (n : Nat) where
  color : Fin n → Color
  /-- The nodes on the way to the present one, the innermost first. -/
  path : List (Fin n)
  /-- For each node of the path the successors still to look at. -/
  stack : List (List (Fin n))

/-- How a search ends. -/
inductive Verdict (n : Nat) where
  /-- Everything that was reached is left again. -/
  | exhausted (color : Fin n → Color)
  | cycle (nodes : List (Fin n))
  /-- An edge led to a gray node that the path does not hold. -/
  | astray (node : Fin n)

/-- The nodes of the path from `node` to the innermost one, then `node` again. -/
def closeCycle? (path : List (Fin n)) (node : Fin n) : Option (List (Fin n)) :=
  (path.reverse.findIdx? (· = node)).map fun position => path.reverse.drop position ++ [node]

def whites (color : Fin n → Color) : List (Fin n) :=
  (List.finRange n).filter (color · = .white)

theorem whites_paint {color : Fin n → Color} {node : Fin n} {shade : Color}
    (hshade : shade ≠ .white) :
    whites (paint color node shade) = (whites color).filter (· ≠ node) := by
  unfold whites
  rw [List.filter_filter]
  apply List.filter_congr
  intro other _
  by_cases h : other = node <;> simp [paint, h, hshade]

theorem length_whites_paint_lt {color : Fin n → Color} {node : Fin n} {shade : Color}
    (hnode : color node = .white) (hshade : shade ≠ .white) :
    (whites (paint color node shade)).length < (whites color).length := by
  rw [whites_paint hshade, List.length_filter_lt_length_iff_exists]
  exact ⟨node, by simp [whites, hnode], by simp⟩

theorem length_whites_paint_le {color : Fin n → Color} {node : Fin n} {shade : Color}
    (hshade : shade ≠ .white) :
    (whites (paint color node shade)).length ≤ (whites color).length := by
  rw [whites_paint hshade]
  exact List.length_filter_le ..

/-- How many turns are left that enter no node. -/
def stackWork : List (List (Fin n)) → Nat
  | [] => 0
  | unread :: stack => unread.length + 1 + stackWork stack

namespace Search

/-- Goes into a node. -/
def enter (graph : Graph n) (search : Search n) (node : Fin n) : Search n where
  color := paint search.color node .gray
  path := node :: search.path
  stack := graph.successors node :: search.stack

/-- Goes back from the innermost node, which has nothing left to look at. -/
def leave (search : Search n) : Search n :=
  match search.path with
  | [] => { search with stack := search.stack.tail }
  | node :: path => { color := paint search.color node .black, path, stack := search.stack.tail }

/-- One look at the next successor of the innermost node. -/
def turn (graph : Graph n) (search : Search n) : Verdict n ⊕ Search n :=
  match search.stack with
  | [] => .inl (.exhausted search.color)
  | [] :: _ => .inr search.leave
  | (next :: others) :: stack =>
      match search.color next with
      | .white => .inr ({ search with stack := others :: stack }.enter graph next)
      | .gray =>
          match closeCycle? search.path next with
          | some nodes => .inl (.cycle nodes)
          | none => .inl (.astray next)
      | .black => .inr { search with stack := others :: stack }

/-- Each turn leaves fewer white nodes, or as many at most and less work on the stack. -/
theorem turn_decreases {graph : Graph n} {search next : Search n}
    (h : search.turn graph = .inr next) :
    (whites next.color).length < (whites search.color).length ∨
      (whites next.color).length ≤ (whites search.color).length ∧
        stackWork next.stack < stackWork search.stack := by
  obtain ⟨color, path, stack⟩ := search
  match stack with
  | [] => simp [turn] at h
  | [] :: stack =>
      right
      simp only [turn, Sum.inr.injEq] at h
      subst h
      cases path with
      | nil => exact ⟨Nat.le_refl _, by simp [leave, stackWork]⟩
      | cons node path => exact ⟨length_whites_paint_le (by simp), by simp [leave, stackWork]⟩
  | (node :: others) :: stack =>
      cases hnode : color node with
      | white =>
          left
          simp only [turn, hnode, Sum.inr.injEq] at h
          subst h
          exact length_whites_paint_lt hnode (by simp)
      | gray =>
          simp only [turn, hnode] at h
          split at h <;> simp at h
      | black =>
          right
          simp only [turn, hnode, Sum.inr.injEq] at h
          subst h
          exact ⟨Nat.le_refl _, by simp [stackWork]⟩

/-- Takes turns to the end. -/
def run (graph : Graph n) (search : Search n) : Verdict n :=
  match _hturn : search.turn graph with
  | .inl verdict => verdict
  | .inr next => run graph next
termination_by ((whites search.color).length, stackWork search.stack)
decreasing_by
  rcases turn_decreases ‹_› with hwhite | ⟨hwhite, hwork⟩
  · exact Prod.Lex.left _ _ hwhite
  · exact Prod.Lex.right' _ hwhite hwork

end Search

/-- Searches from each node in order that is white. -/
def searchFrom (graph : Graph n) (color : Fin n → Color) : List (Fin n) → Verdict n
  | [] => .exhausted color
  | node :: rest =>
      if color node = .white then
        match ({ color, path := [], stack := [] : Search n }.enter graph node).run graph with
        | .exhausted color => searchFrom graph color rest
        | .cycle nodes => .cycle nodes
        | .astray node => .astray node
      else searchFrom graph color rest

def search (graph : Graph n) : Verdict n :=
  graph.searchFrom (fun _ => .white) (List.finRange n)

/-- The nodes of one cycle with the first one repeated at the end. -/
def findCycle? (graph : Graph n) : Option (List (Fin n)) :=
  match graph.search with
  | .cycle nodes => some nodes
  | .exhausted _ | .astray _ => none

example : (Graph.mk [((0 : Fin 2), 1), (1, 0)]).findCycle? = some [0, 1, 0] := by cbv

example : (Graph.mk [((0 : Fin 2), 1)]).findCycle? = none := by cbv

end TaskScript.Graph
