/-
Two lists of as many tasks with the same markers, position by position.  If the dependencies are
the same, so are the edges of the graph; if only what is required is the same, so is what leads
to what.
-/
import TaskScript.Proofs.Task.MarkedOrder

namespace TaskScript

open Relation

theorem forall_cast_iff {n m : Nat} (h : n = m) {first : Fin n → Prop} {second : Fin m → Prop}
    (hsame : ∀ a, first a ↔ second (a.cast h)) : (∀ a, first a) ↔ ∀ a, second a := by
  subst h
  exact forall_congr' hsame

theorem eq_map_cast_of_iff {n m : Nat} (h : n = m) {first : Option (Fin n)}
    {second : Option (Fin m)} (hsame : ∀ a, first = some a ↔ second = some (a.cast h)) :
    second = first.map (Fin.cast h) := by
  subst h
  have heq : second = first := Option.ext fun a => (hsame a).symm
  rw [heq]
  cases first <;> rfl

theorem transGen_cast_iff {n m : Nat} (h : n = m) {first : Fin n → Fin n → Prop}
    {second : Fin m → Fin m → Prop} (hsame : ∀ a b, first a b ↔ second (a.cast h) (b.cast h))
    (a b : Fin n) : TransGen first a b ↔ TransGen second (a.cast h) (b.cast h) := by
  subst h
  have heq : first = second := by
    funext a b
    exact propext (hsame a b)
  rw [heq]
  rfl

/-- Relations of which each is within the closure of the other have the same closure. -/
theorem transGen_cast_iff_of_closed {n m : Nat} (h : n = m) {first : Fin n → Fin n → Prop}
    {second : Fin m → Fin m → Prop}
    (hfirst : ∀ a b, first a b → TransGen second (a.cast h) (b.cast h))
    (hsecond : ∀ a b, second (a.cast h) (b.cast h) → TransGen first a b) (a b : Fin n) :
    TransGen first a b ↔ TransGen second (a.cast h) (b.cast h) := by
  subst h
  exact ⟨TransGen.closed hfirst a b, TransGen.closed hsecond a b⟩

namespace TaskList

variable {first second : TaskList}

theorem reflTransGen_cast_iff (hsize : first.size = second.size)
    (hrequires : ∀ task dependency, first.Requires task dependency ↔
      second.Requires (task.cast hsize) (dependency.cast hsize))
    (task dependency : Fin first.size) :
    ReflTransGen first.DependsOn task dependency ↔
      ReflTransGen second.DependsOn (task.cast hsize) (dependency.cast hsize) := by
  rw [reflTransGen_iff_eq_or_transGen, reflTransGen_iff_eq_or_transGen, Fin.cast_inj]
  exact or_congr_right (hrequires task dependency)

/-- The markers of both lists add the same edges. -/
theorem marked_cast_iff (hsize : first.size = second.size)
    (hrequires : ∀ task dependency, first.Requires task dependency ↔
      second.Requires (task.cast hsize) (dependency.cast hsize))
    {pregeneration last : Option (Fin first.size)} (source target : Fin first.size) :
    (pregeneration = some source ∧ ¬ ReflTransGen first.DependsOn source target ∨
        last = some target ∧ source ≠ target) ↔
      (pregeneration.map (Fin.cast hsize) = some (source.cast hsize) ∧
          ¬ ReflTransGen second.DependsOn (source.cast hsize) (target.cast hsize) ∨
        last.map (Fin.cast hsize) = some (target.cast hsize) ∧
          source.cast hsize ≠ target.cast hsize) := by
  have hmap (marker : Option (Fin first.size)) (position : Fin first.size) :
      marker.map (Fin.cast hsize) = some (position.cast hsize) ↔ marker = some position := by
    cases marker <;> simp
  rw [hmap, hmap, reflTransGen_cast_iff hsize hrequires, ne_eq, ne_eq, Fin.cast_inj]

theorem hasEdge_graph_cast_iff (hsize : first.size = second.size)
    (hdepends : ∀ task dependency, first.DependsOn task dependency ↔
      second.DependsOn (task.cast hsize) (dependency.cast hsize))
    {pregeneration last : Option (Fin first.size)} {source target : Fin first.size} :
    (first.graph pregeneration last).HasEdge source target ↔
      (second.graph (pregeneration.map (Fin.cast hsize)) (last.map (Fin.cast hsize))).HasEdge
        (source.cast hsize) (target.cast hsize) := by
  rw [hasEdge_graph, hasEdge_graph, hdepends,
    marked_cast_iff hsize (transGen_cast_iff hsize hdepends)]

theorem transGen_graph_cast_iff (hsize : first.size = second.size)
    (hrequires : ∀ task dependency, first.Requires task dependency ↔
      second.Requires (task.cast hsize) (dependency.cast hsize))
    {pregeneration last : Option (Fin first.size)} (source target : Fin first.size) :
    TransGen (first.graph pregeneration last).HasEdge source target ↔
      TransGen (second.graph (pregeneration.map (Fin.cast hsize))
        (last.map (Fin.cast hsize))).HasEdge (source.cast hsize) (target.cast hsize) := by
  refine transGen_cast_iff_of_closed hsize ?_ ?_ source target
  · intro a b hedge
    rcases hasEdge_graph.mp hedge with hdepends | hmarked
    · exact transGen_graph_of_requires ((hrequires b a).mp (.single hdepends))
    · exact .single (hasEdge_graph.mpr (.inr ((marked_cast_iff hsize hrequires a b).mp hmarked)))
  · intro a b hedge
    rcases hasEdge_graph.mp hedge with hdepends | hmarked
    · exact transGen_graph_of_requires ((hrequires b a).mpr (.single hdepends))
    · exact .single (hasEdge_graph.mpr (.inr ((marked_cast_iff hsize hrequires a b).mpr hmarked)))

end TaskList

end TaskScript
