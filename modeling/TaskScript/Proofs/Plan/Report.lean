/-
The report of a plan.  Nine sources are looked at one after another, and none of them
depends on what the others found; what a report says about each is stated in terms of the
tasks, the variables and the markers of the plan.
-/
import TaskScript.Proofs.Plan.CycleReport

namespace TaskScript

/-- One cycle of the graph, if there is any. -/
inductive Plan.CycleFinding (plan : Plan) : List Problem → Prop
  | acyclic : (∀ task, ¬ plan.tasks.Requires task task) → ¬ plan.MarkersClash →
      CycleFinding plan []
  | cyclic {cycle : List (Fin plan.tasks.size)} : plan.graph.IsCycle cycle →
      CycleFinding plan [.cycle (cycle.map fun position => (plan.tasks.task position).name)]

/-- What each source of problems found. -/
structure Findings where
  configuration : List Problem
  last : List Problem
  pregeneration : List Problem
  required : List Problem
  declared : List Problem
  tasks : List Problem
  imports : List Problem
  dangling : List Problem
  cycle : List Problem

def Findings.inOrder (found : Findings) : List Problem :=
  found.configuration ++ found.last ++ found.pregeneration ++ found.required ++ found.declared ++
    found.tasks ++ found.imports ++ found.dangling ++ found.cycle

namespace Plan

/-- What is found in a plan, source by source. -/
structure Finds (plan : Plan) (found : Findings) : Prop where
  configuration : found.configuration = plan.failure?.toList.map .ofFailure
  last : plan.LastFinding found.last
  pregeneration : plan.PregenerationFinding found.pregeneration
  required : Itemwise (fun wanted => Reported (¬ plan.Assigns wanted.name)
    (.missingRequired wanted.name)) plan.required.items found.required
  declared : Itemwise (fun slot => Reported (slot.isValid = false)
    (.invalidVariable slot.name)) plan.declared.items found.declared
  tasks : Itemwise plan.TaskFinding plan.tasks.items found.tasks
  imports : plan.ImportFinding found.imports
  dangling : Itemwise (fun task => Itemwise (fun id => Reported (plan.tasks.Foreign id)
    (.danglingDependency task.name)) task.dependencies.items) plan.tasks.items
    found.dangling
  cycle : plan.CycleFinding found.cycle

theorem cycleFinding (plan : Plan) : plan.CycleFinding plan.cycleProblems := by
  unfold cycleProblems
  cases hcycle : plan.graph.findCycle? with
  | none =>
      have hacyclic : plan.graph.Acyclic := (Graph.findCycle?_eq_none_iff _).mp hcycle
      refine .acyclic (fun task hself => ?_) fun hclash => ?_
      · exact not_acyclic_graph_iff.mpr (.inl ⟨task, hself⟩) hacyclic
      · exact not_acyclic_graph_iff.mpr (.inr hclash) hacyclic
  | some cycle => exact .cyclic (Graph.isCycle_of_findCycle? hcycle)

def findings (plan : Plan) : Findings where
  configuration := plan.configurationProblems
  last := plan.lastProblems
  pregeneration := plan.pregenerationProblems
  required := plan.requiredProblems
  declared := plan.variableProblems
  tasks := plan.taskProblems
  imports := plan.importProblems
  dangling := plan.danglingProblems
  cycle := plan.cycleProblems

theorem finds_findings (plan : Plan) : plan.Finds plan.findings where
  configuration := rfl
  last := plan.lastFinding
  pregeneration := plan.pregenerationFinding
  required := .of_filter fun wanted => by simp [mem_assignedNames_iff]
  declared := .of_filter fun slot => by simp
  tasks := .of_filterMap plan.taskFinding
  imports := plan.importFinding
  dangling := .of_flatMap fun task => .of_filter fun id => by simp [TaskList.owns_eq_false_iff]
  cycle := plan.cycleFinding

/-- A report lists what each of the nine sources found, one source after another, whatever the
others found.  If the validator keeps to a rule for single imports, the imports of the tasks that
break it are reported, and if it looks at each by itself, each once and in ascending order.  Only if
none found anything the code is asked for, in the order the tasks run: then either the fields it
lacks are reported or there is a script. -/
theorem report_exact (plan : Plan) (comments : Bool) :
    ∃ found, plan.Finds found ∧
      (∀ valid, plan.env.validateImports.Checks valid → ∀ statement,
        .rejectedImport statement ∈ found.imports ↔
          ¬ valid statement ∧ ∃ task ∈ plan.tasks.items, statement ∈ task.body.imports) ∧
      (∀ rejects, plan.env.validateImports = .rejecting rejects →
        plan.RejectedFinding rejects found.imports) ∧
      (found.inOrder ≠ [] →
        ∃ problems, plan.text comments = .error problems ∧ problems.toList = found.inOrder) ∧
      (found.inOrder = [] → ∃ lacking, Itemwise CodeFinding plan.orderedTasks lacking ∧
        (lacking ≠ [] →
          ∃ problems, plan.text comments = .error problems ∧ problems.toList = lacking) ∧
        (lacking = [] →
          plan.text comments = .ok ((Script.ofTasks plan.orderedTasks).text comments))) := by
  have hfound : plan.findings.inOrder = plan.problems := rfl
  refine ⟨plan.findings, plan.finds_findings, fun valid hchecks statement => ?_,
    fun _ => rejectedFinding, ?_, ?_⟩
  · rw [← mem_rejectedImports_iff hchecks]
    simp [findings, importProblems]
  · intro hne
    obtain ⟨problems, hproblems⟩ := NonEmpty.exists_eq_toList_of_ne_nil hne
    exact ⟨problems, text_eq_error_iff.mpr (.inl hproblems), hproblems.symm⟩
  · intro hnone
    refine ⟨codeProblems plan.orderedTasks, codeFinding _, ?_, ?_⟩
    · intro hne
      obtain ⟨problems, hproblems⟩ := NonEmpty.exists_eq_toList_of_ne_nil hne
      exact ⟨problems, text_eq_error_iff.mpr (.inr ⟨hnone, hproblems⟩), hproblems.symm⟩
    · exact fun hcode => text_eq_ok_iff.mpr ⟨hnone, hcode, rfl⟩

/-- A plan with something for every source. -/
def faulty : Plan where
  env := { acceptsPath := fun _ => true }
  names := {}
  declared := .ofItems [⟨"not valid", false⟩, ⟨"m", true⟩]
  tasks := .ofItems 1 [
      { body := .saveModel { modelInput := ⟨some ⟨"m", true⟩⟩ }
        dependencies := .ofList [⟨1, 1⟩, ⟨2, 0⟩], name := "a" },
      { body := .custom { imports := .ofList [{ source := "x y" }, { source := "os" }] }
        dependencies := .ofList [⟨1, 0⟩, ⟨1, 2⟩], name := "b" },
      { body := .custom { outputs := .ok (.single ⟨"m", true⟩), check := .ok false }
        name := "c" }]
  pregenerationLast := some ⟨2, 0⟩
  last := some ⟨1, 2⟩
  required := ⟨[⟨"m", true⟩, ⟨"z", true⟩]⟩
  failure? := some { cause := .nameTaken ⟨"m"⟩ }

theorem report_exact_faulty :
    ∃ found, faulty.Finds found ∧ found.inOrder =
      [.nameTaken ⟨"m"⟩, .dependsOnLast "c" ["b"], .unknownMarker .pregenerationLast ⟨2, 0⟩,
        .missingRequired "z", .invalidVariable "not valid", .unassigned "a" ⟨"model_path"⟩,
        .invalidTask .empty "c", .rejectedImport { source := "x y" }, .danglingDependency "a",
        .cycle ["a", "b", "a"]] := by
  have htext : faulty.text false = .error ⟨.nameTaken ⟨"m"⟩,
      [.dependsOnLast "c" ["b"], .unknownMarker .pregenerationLast ⟨2, 0⟩, .missingRequired "z",
        .invalidVariable "not valid", .unassigned "a" ⟨"model_path"⟩, .invalidTask .empty "c",
        .rejectedImport { source := "x y" }, .danglingDependency "a", .cycle ["a", "b", "a"]]⟩ := by
    cbv
  obtain ⟨found, hfinds, _, _, hreport, _⟩ := report_exact faulty false
  obtain ⟨problems, herror, hproblems⟩ :=
    hreport (by simp [Findings.inOrder, hfinds.configuration, faulty])
  obtain rfl := Except.error.inj (htext.symm.trans herror)
  exact ⟨found, hfinds, hproblems.symm⟩

end Plan

end TaskScript
