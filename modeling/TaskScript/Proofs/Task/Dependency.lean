/-
What a task depends on, and the graph in those terms.  The edges that the markers add lie
on no cycle, unless one task is marked both as the last before the generation and as the
last of all and some task is not among those it requires.
-/
import TaskScript.Proofs.Graph.Walk
import TaskScript.Task.TaskGraph

namespace TaskScript.TaskList

open Relation

/-- A task lists a task of the same list among its dependencies. -/
def DependsOn (tasks : TaskList) (task dependency : Fin tasks.size) : Prop :=
  tasks.id dependency ∈ (tasks.task task).dependencies

instance (tasks : TaskList) (task dependency : Fin tasks.size) :
    Decidable (tasks.DependsOn task dependency) :=
  inferInstanceAs (Decidable (tasks.id dependency ∈ (tasks.task task).dependencies))

/-- A task depends on another one, directly or through others. -/
abbrev Requires (tasks : TaskList) : Fin tasks.size → Fin tasks.size → Prop :=
  TransGen tasks.DependsOn

theorem position?_eq_some_iff {tasks : TaskList} {id : TaskId} {position : Fin tasks.size} :
    tasks.position? id = some position ↔ id = tasks.id position := by
  obtain ⟨owner, index⟩ := id
  unfold position?
  constructor
  · intro h
    split at h
    · rename_i howned
      obtain rfl := Option.some.inj h
      exact congrArg (TaskId.mk · index) howned.1
    · cases h
  · intro h
    obtain ⟨rfl, rfl⟩ := TaskId.mk.inj h
    rw [dif_pos ⟨rfl, position.isLt⟩]

/-- The identifier is that of no task of the list. -/
def Foreign (tasks : TaskList) (id : TaskId) : Prop :=
  ∀ position : Fin tasks.size, id ≠ tasks.id position

theorem position?_eq_none_iff {tasks : TaskList} {id : TaskId} :
    tasks.position? id = none ↔ tasks.Foreign id := by
  simp [Option.eq_none_iff_forall_ne_some, position?_eq_some_iff, Foreign]

theorem owns_eq_false_iff {tasks : TaskList} {id : TaskId} :
    tasks.owns id = false ↔ tasks.Foreign id := by
  rw [← position?_eq_none_iff, owns, Option.isSome_eq_false_iff, Option.isNone_iff_eq_none]

theorem map_task_positions (tasks : TaskList) :
    tasks.positions.map tasks.task = tasks.items :=
  List.map_get_finRange tasks.registry.items

theorem mem_localDependencies {tasks : TaskList} {task dependency : Fin tasks.size} :
    dependency ∈ tasks.localDependencies task ↔ tasks.DependsOn task dependency := by
  simp [localDependencies, DependsOn, List.mem_filterMap, position?_eq_some_iff]

theorem hasEdge_dependencyGraph {tasks : TaskList} {source target : Fin tasks.size} :
    tasks.dependencyGraph.HasEdge source target ↔ tasks.DependsOn target source := by
  rw [dependencyGraph, Graph.hasEdge_linkAll]
  simp [Graph.HasEdge, dependencyEdges, positions, mem_localDependencies]

theorem hasEdge_dependencyGraph_eq_swap (tasks : TaskList) :
    tasks.dependencyGraph.HasEdge = Function.swap tasks.DependsOn := by
  funext source target
  exact propext hasEdge_dependencyGraph

theorem reflTransGen_dependencyGraph {tasks : TaskList} {source target : Fin tasks.size} :
    ReflTransGen tasks.dependencyGraph.HasEdge source target ↔
      ReflTransGen tasks.DependsOn target source := by
  rw [hasEdge_dependencyGraph_eq_swap, reflTransGen_swap]

theorem transGen_dependencyGraph {tasks : TaskList} {source target : Fin tasks.size} :
    TransGen tasks.dependencyGraph.HasEdge source target ↔ tasks.Requires target source := by
  rw [hasEdge_dependencyGraph_eq_swap, transGen_swap]

theorem acyclic_dependencyGraph {tasks : TaskList} :
    tasks.dependencyGraph.Acyclic ↔ ∀ task, ¬ tasks.Requires task task := by
  simp only [Graph.Acyclic, transGen_dependencyGraph]

theorem mem_pregenerationEdges {tasks : TaskList} {start source target : Fin tasks.size} :
    (source, target) ∈ tasks.pregenerationEdges start ↔
      start = source ∧ ¬ ReflTransGen tasks.DependsOn source target := by
  simp only [pregenerationEdges, List.mem_map, List.mem_filter, Prod.mk.injEq,
    decide_eq_true_eq, Graph.mem_ancestors_iff, reflTransGen_dependencyGraph]
  constructor
  · rintro ⟨_, ⟨_, hnot⟩, rfl, rfl⟩
    exact ⟨rfl, hnot⟩
  · rintro ⟨rfl, hnot⟩
    exact ⟨target, ⟨List.mem_finRange target, hnot⟩, rfl, rfl⟩

theorem mem_lastEdges {tasks : TaskList} {stop source target : Fin tasks.size} :
    (source, target) ∈ tasks.lastEdges stop ↔ stop = target ∧ source ≠ target := by
  simp only [lastEdges, List.mem_map, List.mem_filter, Prod.mk.injEq, decide_eq_true_eq]
  constructor
  · rintro ⟨_, ⟨_, hne⟩, rfl, rfl⟩
    exact ⟨rfl, hne⟩
  · rintro ⟨rfl, hne⟩
    exact ⟨source, ⟨List.mem_finRange source, hne⟩, rfl, rfl⟩

theorem hasEdge_graph {tasks : TaskList} {pregeneration last : Option (Fin tasks.size)}
    {source target : Fin tasks.size} :
    (tasks.graph pregeneration last).HasEdge source target ↔
      tasks.DependsOn target source ∨
        pregeneration = some source ∧ ¬ ReflTransGen tasks.DependsOn source target ∨
        last = some target ∧ source ≠ target := by
  rw [graph, Graph.hasEdge_linkAll, hasEdge_dependencyGraph]
  simp [markerEdges, mem_pregenerationEdges, mem_lastEdges, ← and_assoc]

section Markers

variable {tasks : TaskList} {pregeneration last : Option (Fin tasks.size)}

theorem hasEdge_of_not_requires {marked task : Fin tasks.size}
    (hmarked : pregeneration = some marked) (hne : task ≠ marked)
    (hnot : ¬ tasks.Requires marked task) :
    (tasks.graph pregeneration last).HasEdge marked task := by
  refine hasEdge_graph.mpr (Or.inr (Or.inl ⟨hmarked, ?_⟩))
  rw [reflTransGen_iff_eq_or_transGen, not_or]
  exact ⟨hne, hnot⟩

theorem hasEdge_last {final task : Fin tasks.size} (hfinal : last = some final)
    (hne : task ≠ final) :
    (tasks.graph pregeneration last).HasEdge task final :=
  hasEdge_graph.mpr (Or.inr (Or.inr ⟨hfinal, hne⟩))

/-- No other task depends on the last one, and a task with both markers requires all
others. -/
structure Compatible (tasks : TaskList) (pregeneration last : Option (Fin tasks.size)) :
    Prop where
  not_dependsOn : ∀ marked, last = some marked → ∀ other, other ≠ marked →
    ¬ tasks.DependsOn other marked
  requires : ∀ marked, pregeneration = some marked → last = some marked →
    ∀ other, other ≠ marked → tasks.Requires marked other

theorem Compatible.eq_of_requires (hcompatible : tasks.Compatible pregeneration last)
    {task marked : Fin tasks.size} (hlast : last = some marked)
    (hrequires : ReflTransGen tasks.DependsOn task marked) : task = marked := by
  induction hrequires using ReflTransGen.head_induction_on with
  | refl => rfl
  | head hdepends _ ih =>
      subst ih
      by_contra hne
      exact hcompatible.not_dependsOn _ hlast _ hne hdepends

/-- No edge leads from the last task to another one. -/
theorem Compatible.eq_of_hasEdge_last (hcompatible : tasks.Compatible pregeneration last)
    {marked target : Fin tasks.size} (hlast : last = some marked)
    (hedge : (tasks.graph pregeneration last).HasEdge marked target) : target = marked := by
  by_contra hne
  rcases hasEdge_graph.mp hedge with hdepends | ⟨hpregeneration, hnot⟩ | ⟨htarget, _⟩
  · exact hcompatible.not_dependsOn marked hlast target hne hdepends
  · exact hnot (hcompatible.requires marked hpregeneration hlast target hne).to_reflTransGen
  · exact hne (Option.some.inj (htarget.symm.trans hlast))

theorem Compatible.eq_of_reaches_last (hcompatible : tasks.Compatible pregeneration last)
    {marked target : Fin tasks.size} (hlast : last = some marked)
    (hreach : ReflTransGen (tasks.graph pregeneration last).HasEdge marked target) :
    target = marked := by
  induction hreach with
  | refl => rfl
  | tail _ hedge ih =>
      subst ih
      exact hcompatible.eq_of_hasEdge_last hlast hedge

/-- Whatever leads to the task marked as the last before the generation is required by
it. -/
theorem Compatible.requires_of_reaches (hcompatible : tasks.Compatible pregeneration last)
    {source marked : Fin tasks.size} (hpregeneration : pregeneration = some marked)
    (hreach : ReflTransGen (tasks.graph pregeneration last).HasEdge source marked) :
    ReflTransGen tasks.DependsOn marked source := by
  -- From the end of the walk backwards, so that what the edge leads to is required already.
  induction hreach using ReflTransGen.head_induction_on with
  | refl => exact .refl
  | @head source next hedge _ ih =>
      rcases hasEdge_graph.mp hedge with hdepends | ⟨hsource, hnot⟩ | ⟨hlast, hne⟩
      · exact ih.tail hdepends
      · obtain rfl := Option.some.inj (hpregeneration.symm.trans hsource)
        exact absurd ih hnot
      · obtain rfl := hcompatible.eq_of_requires hlast ih
        exact (hcompatible.requires marked hpregeneration hlast source hne).to_reflTransGen

/-- An edge on a walk that returns is that of a dependency. -/
theorem Compatible.dependsOn_of_returns (hcompatible : tasks.Compatible pregeneration last)
    {source target : Fin tasks.size}
    (hedge : (tasks.graph pregeneration last).HasEdge source target)
    (hback : ReflTransGen (tasks.graph pregeneration last).HasEdge target source) :
    tasks.DependsOn target source := by
  rcases hasEdge_graph.mp hedge with hdepends | ⟨hsource, hnot⟩ | ⟨htarget, hne⟩
  · exact hdepends
  · exact absurd (hcompatible.requires_of_reaches hsource hback) hnot
  · exact absurd (hcompatible.eq_of_reaches_last htarget hback) hne

/-- If nothing depends on the last task, the graph with its markers is acyclic exactly
when no task requires itself and a task with both markers requires all others. -/
theorem acyclic_graph_iff
    (hlast : ∀ marked, last = some marked → ∀ other, other ≠ marked →
      ¬ tasks.DependsOn other marked) :
    (tasks.graph pregeneration last).Acyclic ↔
      (∀ task, ¬ tasks.Requires task task) ∧
        ∀ marked, pregeneration = some marked → last = some marked →
          ∀ other, other ≠ marked → tasks.Requires marked other := by
  constructor
  · intro hacyclic
    refine ⟨?_, ?_⟩
    · rw [← acyclic_dependencyGraph]
      exact hacyclic.mono fun source target h =>
        hasEdge_graph.mpr (Or.inl (hasEdge_dependencyGraph.mp h))
    · intro marked hpregeneration hmarked other hne
      by_contra hnot
      have hout : (tasks.graph pregeneration last).HasEdge marked other :=
        hasEdge_of_not_requires hpregeneration hne hnot
      have hback : (tasks.graph pregeneration last).HasEdge other marked :=
        hasEdge_last hmarked hne
      exact hacyclic marked (TransGen.tail (.single hout) hback)
  · rintro ⟨hself, hrequires⟩
    have hcompatible : tasks.Compatible pregeneration last := ⟨hlast, hrequires⟩
    refine (acyclic_dependencyGraph.mpr hself).of_returns fun source target hedge hback => ?_
    exact hasEdge_dependencyGraph.mpr (hcompatible.dependsOn_of_returns hedge hback)

end Markers

end TaskScript.TaskList
