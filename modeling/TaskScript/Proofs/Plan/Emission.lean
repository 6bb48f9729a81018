/-
The order in which a script emits its tasks.  A plan that gives a script has markers that
resolve and a graph without cycles, so the order of its tasks is parted by the one marker
and ended by the other.
-/
import TaskScript.Proofs.Plan.Outcome
import TaskScript.Proofs.Task.MarkedOrder

namespace TaskScript.Plan

/-- The same tasks without markers. -/
def unmarked (plan : Plan) : Plan :=
  { plan with pregenerationLast := none, last := none }

/-- A script emits every task once: first what the task marked as the last before the
generation requires, in the order it has without markers, then that task and then all
others, of which the task marked as the last of all is the final one. -/
theorem emission_exact (plan : Plan) (comments : Bool) (text : String)
    (htext : plan.text comments = .ok text) :
    text = (Script.ofTasks (plan.graph.order.map plan.tasks.task)).text comments ∧
      plan.graph.order.Perm plan.tasks.positions ∧
      (∀ id, plan.pregenerationLast = some id →
        ∃ marked before after, plan.tasks.position? id = some marked ∧
          plan.graph.order = before ++ [marked] ++ after ∧
          (∀ task, task ∈ before ↔ plan.tasks.Requires marked task) ∧
          (∀ task, task ∈ after ↔ task ≠ marked ∧ ¬ plan.tasks.Requires marked task) ∧
          before = plan.unmarked.graph.order.filter (· ∈ before)) ∧
      ∀ id, plan.last = some id →
        ∃ final, plan.tasks.position? id = some final ∧
          plan.graph.order.getLast? = some final := by
  obtain ⟨hproblems, _, hscript⟩ := text_eq_ok_iff.mp htext
  have hsound := sound_of_problems_eq_nil hproblems
  have horder := Graph.isOrdering_order hsound.acyclic
  refine ⟨hscript.symm, horder.perm, ?_, ?_⟩
  · intro id hid
    obtain ⟨marked, hmarked⟩ := hsound.pregeneration id hid
    obtain ⟨before, after, hsplit⟩ := List.append_of_mem (horder.mem marked)
    have hparted := horder
    rw [hsplit] at hparted
    refine ⟨marked, before, after, ?_, ?_, ?_, ?_, ?_⟩
    · simpa [pregenerationLast?, hid] using hmarked
    · simpa using hsplit
    · exact fun task => TaskList.mem_before_iff_requires hparted hmarked
    · exact fun task => TaskList.mem_after_iff_not_requires hparted hmarked
    · exact TaskList.before_eq_filter hsound.acyclic hsplit hmarked
  · intro id hid
    obtain ⟨final, hfinal⟩ := hsound.last id hid
    refine ⟨final, ?_, TaskList.getLast?_eq_last horder hfinal⟩
    rw [TaskList.position?_eq_some_iff]
    exact Option.some.inj (hid.symm.trans (last?_eq_some_iff.mp hfinal).1)

/-- Five tasks, of which `b` requires `d` and `e`; the markers are on `b` and `c`. -/
def parted : Plan where
  env := { acceptsPath := fun _ => true }
  names := {}
  tasks := .ofItems 1 [
      { body := .custom { code := .ok "a" }, name := "a" },
      { body := .custom { code := .ok "b" }, dependencies := .single ⟨1, 3⟩, name := "b" },
      { body := .custom { code := .ok "c" }, name := "c" },
      { body := .custom { code := .ok "d" }, dependencies := .single ⟨1, 4⟩, name := "d" },
      { body := .custom { code := .ok "e" }, name := "e" }]
  pregenerationLast := some ⟨1, 1⟩
  last := some ⟨1, 2⟩

theorem emission_exact_parted :
    parted.text false = .ok "e\n\nd\n\nb\n\na\n\nc" ∧
      (∃ marked before after, parted.tasks.position? ⟨1, 1⟩ = some marked ∧
        parted.graph.order = before ++ [marked] ++ after ∧
        before = parted.unmarked.graph.order.filter (· ∈ before)) ∧
      ∃ final, parted.tasks.position? ⟨1, 2⟩ = some final ∧
        parted.graph.order.getLast? = some final := by
  have htext : parted.text false = .ok "e\n\nd\n\nb\n\na\n\nc" := by cbv
  obtain ⟨_, _, hpregeneration, hlast⟩ := emission_exact parted false _ htext
  obtain ⟨marked, before, after, hmarked, hsplit, _, _, hbefore⟩ := hpregeneration _ rfl
  exact ⟨htext, ⟨marked, before, after, hmarked, hsplit, hbefore⟩, hlast _ rfl⟩

end TaskScript.Plan
