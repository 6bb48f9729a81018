/-
When a cycle is reported.  The markers cause a report of their own in one case only: the
same task has both, no other task depends on it, and it does not require all others.
-/
import TaskScript.Proofs.Plan.Outcome

namespace TaskScript.Plan

open Relation

/-- A task on which no other one depends has both markers and does not require all other
tasks. -/
def MarkersClash (plan : Plan) : Prop :=
  ∃ marked : Fin plan.tasks.size, plan.pregenerationLast = some (plan.tasks.id marked) ∧
    plan.last = some (plan.tasks.id marked) ∧
    (∀ other, other ≠ marked → ¬ plan.tasks.DependsOn other marked) ∧
    ∃ other, other ≠ marked ∧ ¬ plan.tasks.Requires marked other

theorem not_dependsOn_last? {plan : Plan} :
    ∀ marked, plan.last? = some marked → ∀ other, other ≠ marked →
      ¬ plan.tasks.DependsOn other marked :=
  fun _ hmarked => (last?_eq_some_iff.mp hmarked).2

theorem markersClash_iff {plan : Plan} :
    plan.MarkersClash ↔ ∃ marked, plan.pregenerationLast? = some marked ∧
      plan.last? = some marked ∧ ∃ other, other ≠ marked ∧ ¬ plan.tasks.Requires marked other := by
  simp only [MarkersClash, pregenerationLast?_eq_some_iff, last?_eq_some_iff, and_assoc]

theorem not_acyclic_graph_iff {plan : Plan} :
    ¬ plan.graph.Acyclic ↔ (∃ task, plan.tasks.Requires task task) ∨ plan.MarkersClash := by
  rw [graph, TaskList.acyclic_graph_iff not_dependsOn_last?, markersClash_iff]
  push Not
  constructor
  · intro h
    by_cases hself : ∃ task, plan.tasks.Requires task task
    · exact Or.inl hself
    · exact Or.inr (h (by simpa using hself))
  · rintro (⟨task, hself⟩ | hclash)
    · exact fun hnone => absurd hself (hnone task)
    · exact fun _ => hclash

theorem compatible_of_ne {plan : Plan}
    (hne : ∀ marked, plan.last? = some marked → plan.pregenerationLast? ≠ some marked) :
    plan.tasks.Compatible plan.pregenerationLast? plan.last? :=
  ⟨not_dependsOn_last?, fun marked hpregeneration hlast => absurd hpregeneration (hne marked hlast)⟩

/-- A cycle is reported exactly when some task requires itself or the markers clash; and
unless one task has both markers, no edge that a marker adds lies on a cycle. -/
theorem reports_cycle_iff (plan : Plan) (comments : Bool) :
    ((∃ problems names, plan.text comments = .error problems ∧
        .cycle names ∈ problems.toList) ↔
      (∃ task, plan.tasks.Requires task task) ∨ plan.MarkersClash) ∧
    ((∀ marked, plan.last? = some marked → plan.pregenerationLast? ≠ some marked) →
      ∀ source target, plan.graph.HasEdge source target →
        ReflTransGen plan.graph.HasEdge target source →
          plan.tasks.DependsOn target source) := by
  refine ⟨?_, ?_⟩
  · rw [text_reports_cycle_iff, not_acyclic_graph_iff]
  · intro hne source target hedge hback
    exact (compatible_of_ne hne).dependsOn_of_returns hedge hback

/-- The first task depends on itself, the others carry one marker each. -/
def selfDependent : Plan where
  env := { acceptsPath := fun _ => true }
  names := {}
  tasks := .ofItems 1 [
      { body := .empty, dependencies := .single ⟨1, 0⟩, name := "a" },
      { body := .empty, name := "b" },
      { body := .empty, name := "c" }]
  pregenerationLast := some ⟨1, 1⟩
  last := some ⟨1, 2⟩

theorem reports_cycle_iff_selfDependent :
    (∀ marked, selfDependent.last? = some marked →
        selfDependent.pregenerationLast? ≠ some marked) ∧
      selfDependent.graph.HasEdge ⟨0, by decide⟩ ⟨0, by decide⟩ ∧
      selfDependent.tasks.DependsOn ⟨0, by decide⟩ ⟨0, by decide⟩ ∧
      ∃ problems names, selfDependent.text true = .error problems ∧
        .cycle names ∈ problems.toList := by
  have hne : ∀ marked, selfDependent.last? = some marked →
      selfDependent.pregenerationLast? ≠ some marked := by decide
  have hedge : selfDependent.graph.HasEdge ⟨0, by decide⟩ ⟨0, by decide⟩ :=
    TaskList.hasEdge_graph.mpr (Or.inl (by decide))
  obtain ⟨hreport, hdepends⟩ := reports_cycle_iff selfDependent true
  have hself := hdepends hne _ _ hedge .refl
  exact ⟨hne, hedge, hself, hreport.mpr (Or.inl ⟨_, .single hself⟩)⟩

end TaskScript.Plan
