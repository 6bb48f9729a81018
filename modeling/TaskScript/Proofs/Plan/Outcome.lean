/-
How a plan ends: with what is wrong before any code is asked for, else with the fields
that the code lacks, else with a script.
-/
import TaskScript.Proofs.Graph.CycleSearch
import TaskScript.Proofs.Graph.Progress
import TaskScript.Proofs.Plan.Finding

namespace TaskScript.Plan

theorem script_eq_error_iff {plan : Plan} {problems : Problems} :
    plan.script = .error problems ↔
      plan.problems = problems.toList ∨
        plan.problems = [] ∧ codeProblems plan.orderedTasks = problems.toList := by
  rw [← NonEmpty.ofList?_eq_some_iff, ← NonEmpty.ofList?_eq_some_iff,
    ← NonEmpty.ofList?_eq_none_iff]
  unfold script
  cases NonEmpty.ofList? plan.problems with
  | some first => simp
  | none => cases NonEmpty.ofList? (codeProblems plan.orderedTasks) <;> simp

theorem script_eq_ok_iff {plan : Plan} {script : Script} :
    plan.script = .ok script ↔
      plan.problems = [] ∧ codeProblems plan.orderedTasks = [] ∧
        .ofTasks plan.orderedTasks = script := by
  rw [← NonEmpty.ofList?_eq_none_iff, ← NonEmpty.ofList?_eq_none_iff]
  unfold Plan.script
  cases NonEmpty.ofList? plan.problems with
  | some first => simp
  | none => cases NonEmpty.ofList? (codeProblems plan.orderedTasks) <;> simp

theorem text_eq_error_iff {plan : Plan} {comments : Bool} {problems : Problems} :
    plan.text comments = .error problems ↔
      plan.problems = problems.toList ∨
        plan.problems = [] ∧ codeProblems plan.orderedTasks = problems.toList := by
  rw [← script_eq_error_iff]
  unfold text
  cases plan.script <;> simp [Except.map]

theorem text_eq_ok_iff {plan : Plan} {comments : Bool} {text : String} :
    plan.text comments = .ok text ↔
      plan.problems = [] ∧ codeProblems plan.orderedTasks = [] ∧
        (Script.ofTasks plan.orderedTasks).text comments = text := by
  have hscript : plan.text comments = .ok text ↔
      ∃ script, plan.script = .ok script ∧ script.text comments = text := by
    unfold Plan.text
    cases plan.script <;> simp [Except.map]
  simp [hscript, script_eq_ok_iff, and_assoc]

/-- A report holds what is wrong before any code is asked for, or, if nothing is, what the
code lacks. -/
theorem text_reports_iff {plan : Plan} {comments : Bool} {problem : Problem} :
    (∃ problems, plan.text comments = .error problems ∧ problem ∈ problems.toList) ↔
      problem ∈ plan.problems ∨
        plan.problems = [] ∧ problem ∈ codeProblems plan.orderedTasks := by
  constructor
  · rintro ⟨problems, herror, hmem⟩
    rcases text_eq_error_iff.mp herror with h | ⟨hnone, h⟩
    · exact .inl (h ▸ hmem)
    · exact .inr ⟨hnone, h ▸ hmem⟩
  · rintro (hmem | ⟨hnone, hmem⟩)
    · obtain ⟨problems, h⟩ := NonEmpty.exists_eq_toList_of_ne_nil (List.ne_nil_of_mem hmem)
      exact ⟨problems, text_eq_error_iff.mpr (.inl h), h ▸ hmem⟩
    · obtain ⟨problems, h⟩ := NonEmpty.exists_eq_toList_of_ne_nil (List.ne_nil_of_mem hmem)
      exact ⟨problems, text_eq_error_iff.mpr (.inr ⟨hnone, h⟩), h ▸ hmem⟩

theorem mem_codeProblems_iff {tasks : List Task} {problem : Problem} :
    problem ∈ codeProblems tasks ↔
      ∃ task ∈ tasks, ∃ error, task.body.code = .error error ∧
        problem = .unassigned task.name error := by
  unfold codeProblems
  rw [List.mem_filterMap]
  refine exists_congr fun task => and_congr_right fun _ => ?_
  cases task.body.code <;> simp [eq_comm]

theorem unassigned_mem_codeProblems_iff {tasks : List Task} {name : String}
    {error : Unassigned} :
    .unassigned name error ∈ codeProblems tasks ↔
      ∃ task ∈ tasks, task.name = name ∧ task.body.code = .error error := by
  rw [mem_codeProblems_iff]
  refine exists_congr fun task => and_congr_right fun _ => ?_
  constructor
  · rintro ⟨_, herror, heq⟩
    obtain ⟨rfl, rfl⟩ := Problem.unassigned.inj heq
    exact ⟨rfl, herror⟩
  · rintro ⟨rfl, herror⟩
    exact ⟨error, herror, rfl⟩

theorem codeProblems_eq_nil_iff {tasks : List Task} :
    codeProblems tasks = [] ↔ ∀ task ∈ tasks, ∃ code, task.body.code = .ok code := by
  unfold codeProblems
  rw [List.filterMap_eq_nil_iff]
  refine forall₂_congr fun task _ => ?_
  cases task.body.code <;> simp

theorem ofFailure_ne_cycle (names : List String) (failure : Failure) :
    Problem.ofFailure failure ≠ .cycle names := by
  unfold Problem.ofFailure
  split <;> simp

theorem taskProblem?_eq_some_iff {plan : Plan} {task : Task} {problem : Problem} :
    plan.taskProblem? task = some problem ↔
      task.isConfigured plan.env = .ok false ∧ problem = .invalidTask task.kind task.name ∨
        ∃ error, task.isConfigured plan.env = .error error ∧
          problem = .unassigned task.name error := by
  unfold taskProblem?
  rcases task.isConfigured plan.env with error | _ | _ <;> simp [eq_comm]

theorem lastProblems_eq_nil_iff {plan : Plan} :
    plan.lastProblems = [] ↔
      ∀ id, plan.last = some id → ∃ marked, plan.last? = some marked := by
  unfold lastProblems last?
  cases plan.last with
  | none => simp
  | some id =>
      dsimp only [Option.bind_some, Option.bind_eq_bind]
      cases plan.tasks.position? id with
      | none => simp
      | some marked =>
          dsimp only [Option.bind_some]
          split <;> simp

theorem pregenerationProblems_eq_nil_iff {plan : Plan} :
    plan.pregenerationProblems = [] ↔
      ∀ id, plan.pregenerationLast = some id →
        ∃ marked, plan.pregenerationLast? = some marked := by
  unfold pregenerationProblems pregenerationLast?
  cases plan.pregenerationLast with
  | none => simp
  | some id =>
      dsimp only [Option.bind_some]
      cases plan.tasks.position? id <;> simp

theorem cycleProblems_eq_nil_iff {plan : Plan} :
    plan.cycleProblems = [] ↔ plan.graph.Acyclic := by
  rw [← Graph.findCycle?_eq_none_iff]
  unfold cycleProblems
  cases plan.graph.findCycle? <;> simp

/-- A cycle is reported by the search for one, and by nothing else. -/
theorem cycle_mem_problems_iff {plan : Plan} {names : List String} :
    .cycle names ∈ plan.problems ↔ .cycle names ∈ plan.cycleProblems := by
  have hlast : .cycle names ∉ plan.lastProblems :=
    fun h => by simpa using plan.lastFinding.mem_imp h
  have hpregeneration : .cycle names ∉ plan.pregenerationProblems :=
    fun h => by simpa using plan.pregenerationFinding.mem_imp h
  simp [problems, hlast, hpregeneration, taskProblems, taskProblem?_eq_some_iff,
    configurationProblems, ofFailure_ne_cycle, requiredProblems, variableProblems,
    importProblems, danglingProblems]

/-- If the block succeeded, a field is reported by the check of its task. -/
theorem unassigned_mem_problems_iff {plan : Plan} (hconfigured : plan.failure? = none)
    {name : String} {error : Unassigned} :
    .unassigned name error ∈ plan.problems ↔
      ∃ task ∈ plan.tasks.items, task.name = name ∧
        task.isConfigured plan.env = .error error := by
  have hlast : .unassigned name error ∉ plan.lastProblems :=
    fun h => by simpa using plan.lastFinding.mem_imp h
  have hpregeneration : .unassigned name error ∉ plan.pregenerationProblems :=
    fun h => by simpa using plan.pregenerationFinding.mem_imp h
  have htask : .unassigned name error ∈ plan.taskProblems ↔
      ∃ task ∈ plan.tasks.items, task.name = name ∧
        task.isConfigured plan.env = .error error := by
    simp [taskProblems, taskProblem?_eq_some_iff, and_comm, eq_comm (a := name)]
  simp [problems, hlast, hpregeneration, htask, configurationProblems, hconfigured,
    requiredProblems, variableProblems, importProblems, danglingProblems, cycleProblems]

theorem exists_cycle_mem_problems_iff {plan : Plan} :
    (∃ names, .cycle names ∈ plan.problems) ↔ ¬ plan.graph.Acyclic := by
  rw [← Graph.findCycle?_eq_none_iff]
  simp only [cycle_mem_problems_iff]
  unfold cycleProblems
  cases plan.graph.findCycle? <;> simp

/-- What is wrong before any code is asked for decides whether a cycle is reported. -/
theorem text_reports_cycle_iff {plan : Plan} {comments : Bool} :
    (∃ problems names, plan.text comments = .error problems ∧
      .cycle names ∈ problems.toList) ↔ ¬ plan.graph.Acyclic := by
  rw [← exists_cycle_mem_problems_iff, exists_comm]
  refine exists_congr fun names => ?_
  rw [text_reports_iff]
  simp [mem_codeProblems_iff]

/-- What a plan without a problem is known to satisfy: its markers resolve and its graph
has no cycle. -/
structure Sound (plan : Plan) : Prop where
  pregeneration : ∀ id, plan.pregenerationLast = some id →
    ∃ marked, plan.pregenerationLast? = some marked
  last : ∀ id, plan.last = some id → ∃ final, plan.last? = some final
  acyclic : plan.graph.Acyclic

theorem sound_of_problems_eq_nil {plan : Plan} (hproblems : plan.problems = []) :
    plan.Sound := by
  simp only [problems, List.append_eq_nil_iff, and_assoc] at hproblems
  obtain ⟨_, hlast, hpregeneration, _, _, _, _, _, hcycle⟩ := hproblems
  exact ⟨pregenerationProblems_eq_nil_iff.mp hpregeneration, lastProblems_eq_nil_iff.mp hlast,
    cycleProblems_eq_nil_iff.mp hcycle⟩

theorem perm_orderedTasks {plan : Plan} (hacyclic : plan.graph.Acyclic) :
    plan.orderedTasks.Perm plan.tasks.items := by
  rw [← TaskList.map_task_positions]
  exact (Graph.isOrdering_order hacyclic).perm.map plan.tasks.task

theorem taskProblems_eq_nil_iff {plan : Plan} :
    plan.taskProblems = [] ↔ ∀ task ∈ plan.tasks.items, task.isConfigured plan.env = .ok true := by
  unfold taskProblems
  rw [List.filterMap_eq_nil_iff]
  refine forall₂_congr fun task _ => ?_
  unfold taskProblem?
  rcases task.isConfigured plan.env with error | _ | _ <;> simp

/-- A plan that gives a text has only tasks that are configured correctly. -/
theorem isConfigured_of_text {plan : Plan} {comments : Bool} {text : String}
    (htext : plan.text comments = .ok text) {task : Task} (htask : task ∈ plan.tasks.items) :
    task.isConfigured plan.env = .ok true := by
  obtain ⟨hproblems, _⟩ := text_eq_ok_iff.mp htext
  simp only [problems, List.append_eq_nil_iff, and_assoc] at hproblems
  obtain ⟨_, _, _, _, _, htasks, _⟩ := hproblems
  exact taskProblems_eq_nil_iff.mp htasks task htask

/-- A plan that gives a text has the code of every task. -/
theorem exists_code_of_text {plan : Plan} {comments : Bool} {text : String}
    (htext : plan.text comments = .ok text) {task : Task} (htask : task ∈ plan.tasks.items) :
    ∃ code, task.body.code = .ok code := by
  obtain ⟨hproblems, hcode, _⟩ := text_eq_ok_iff.mp htext
  have hperm := perm_orderedTasks (sound_of_problems_eq_nil hproblems).acyclic
  exact codeProblems_eq_nil_iff.mp hcode task (hperm.mem_iff.mpr htask)

end TaskScript.Plan
