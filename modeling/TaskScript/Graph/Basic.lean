/-
Directed graphs over `n` numbered nodes.  The successors of a node come in the order
of their edges, the newest first, and adding an edge that is there changes nothing.
-/
namespace TaskScript

structure Graph (n : Nat) where
  /-- The newest edge first. -/
  edges : List (Fin n × Fin n) := []
  deriving DecidableEq, Repr

namespace Graph

variable {n : Nat}

def HasEdge (graph : Graph n) (source target : Fin n) : Prop :=
  (source, target) ∈ graph.edges

instance (graph : Graph n) (source target : Fin n) : Decidable (graph.HasEdge source target) :=
  inferInstanceAs (Decidable ((source, target) ∈ graph.edges))

def link (graph : Graph n) (source target : Fin n) : Graph n :=
  if graph.HasEdge source target then graph else ⟨(source, target) :: graph.edges⟩

/-- Adds edges one after another. -/
def linkAll (graph : Graph n) (edges : List (Fin n × Fin n)) : Graph n :=
  edges.foldl (fun graph edge => graph.link edge.1 edge.2) graph

def successors (graph : Graph n) (node : Fin n) : List (Fin n) :=
  (graph.edges.filter (·.1 = node)).map Prod.snd

def predecessors (graph : Graph n) (node : Fin n) : List (Fin n) :=
  (graph.edges.filter (·.2 = node)).map Prod.fst

@[simp] theorem mem_successors {graph : Graph n} {source target : Fin n} :
    target ∈ graph.successors source ↔ graph.HasEdge source target := by
  simp only [successors, HasEdge, List.mem_map, List.mem_filter, decide_eq_true_eq]
  constructor
  · rintro ⟨⟨a, b⟩, ⟨h, rfl⟩, rfl⟩
    exact h
  · intro h
    exact ⟨(source, target), ⟨h, rfl⟩, rfl⟩

@[simp] theorem mem_predecessors {graph : Graph n} {source target : Fin n} :
    source ∈ graph.predecessors target ↔ graph.HasEdge source target := by
  simp only [predecessors, HasEdge, List.mem_map, List.mem_filter, decide_eq_true_eq]
  constructor
  · rintro ⟨⟨a, b⟩, ⟨h, rfl⟩, rfl⟩
    exact h
  · intro h
    exact ⟨(source, target), ⟨h, rfl⟩, rfl⟩

@[simp] theorem hasEdge_link {graph : Graph n} {a b source target : Fin n} :
    (graph.link a b).HasEdge source target ↔
      graph.HasEdge source target ∨ source = a ∧ target = b := by
  unfold link
  split
  · rename_i h
    constructor
    · exact .inl
    · rintro (h' | ⟨rfl, rfl⟩)
      · exact h'
      · exact h
  · simp [HasEdge, or_comm]

theorem hasEdge_linkAll {graph : Graph n} {edges : List (Fin n × Fin n)} {source target : Fin n} :
    (graph.linkAll edges).HasEdge source target ↔
      graph.HasEdge source target ∨ (source, target) ∈ edges := by
  induction edges generalizing graph with
  | nil => simp [linkAll]
  | cons edge rest ih =>
      obtain ⟨a, b⟩ := edge
      have h := @ih (graph.link a b)
      rw [linkAll] at h
      rw [linkAll, List.foldl_cons, h, hasEdge_link, List.mem_cons, Prod.mk.injEq, or_assoc]

/-- The nodes that are not in a list, in order; the measure of every search. -/
def missing (seen : List (Fin n)) : List (Fin n) :=
  (List.finRange n).filter (· ∉ seen)

theorem mem_missing {seen : List (Fin n)} {node : Fin n} : node ∈ missing seen ↔ node ∉ seen := by
  simp [missing]

theorem length_missing_lt {seen : List (Fin n)} {node : Fin n} (h : node ∉ seen) :
    (missing (node :: seen)).length < (missing seen).length := by
  have hfilter : missing (node :: seen) = (missing seen).filter (· ≠ node) := by
    unfold missing
    rw [List.filter_filter]
    apply List.filter_congr
    intro other _
    simp [Bool.decide_and]
  rw [hfilter, List.length_filter_lt_length_iff_exists]
  exact ⟨node, mem_missing.2 h, by simp⟩

end Graph

end TaskScript
