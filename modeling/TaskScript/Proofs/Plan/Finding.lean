/-
What each source of problems finds in a plan, in terms of its tasks, variables and markers.
Where a source looks at one thing after another, its findings are those for each of them, in
their order.
-/
import TaskScript.Plan
import TaskScript.Proofs.Import.Reading
import TaskScript.Proofs.Task.Dependency

namespace TaskScript

/-- Problems found item by item, in the order of the items. -/
inductive Itemwise {α : Type} (P : α → List Problem → Prop) : List α → List Problem → Prop
  | nil : Itemwise P [] []
  | cons {item : α} {rest : List α} {part found : List Problem} :
      P item part → Itemwise P rest found → Itemwise P (item :: rest) (part ++ found)

/-- The problem is found if something is wrong, and nothing else is. -/
inductive Reported (wrong : Prop) (problem : Problem) : List Problem → Prop
  | fine : ¬ wrong → Reported wrong problem []
  | faulty : wrong → Reported wrong problem [problem]

namespace Itemwise

variable {α : Type} {P : α → List Problem → Prop} {items : List α}

theorem of_flatMap {find : α → List Problem} (h : ∀ item, P item (find item)) :
    Itemwise P items (items.flatMap find) := by
  induction items with
  | nil => exact .nil
  | cons item rest ih => exact .cons (h item) ih

theorem of_filterMap {find? : α → Option Problem} (h : ∀ item, P item (find? item).toList) :
    Itemwise P items (items.filterMap find?) := by
  rw [List.filterMap_eq_flatMap_toList]
  exact of_flatMap h

theorem of_filter {isWrong : α → Bool} {wrong : α → Prop} {problem : α → Problem}
    (h : ∀ item, isWrong item = true ↔ wrong item) :
    Itemwise (fun item => Reported (wrong item) (problem item)) items
      ((items.filter isWrong).map problem) := by
  induction items with
  | nil => exact .nil
  | cons item rest ih =>
      rw [List.filter_cons]
      split
      · rename_i hwrong
        exact .cons (.faulty ((h item).mp hwrong)) ih
      · rename_i hfine
        exact .cons (.fine (mt (h item).mpr hfine)) ih

end Itemwise

namespace Plan

theorem pregenerationLast?_eq_some_iff {plan : Plan} {marked : Fin plan.tasks.size} :
    plan.pregenerationLast? = some marked ↔
      plan.pregenerationLast = some (plan.tasks.id marked) := by
  simp [pregenerationLast?, Option.bind_eq_some_iff, TaskList.position?_eq_some_iff]

theorem dependents_eq_nil_iff {plan : Plan} {marked : Fin plan.tasks.size} :
    plan.dependents marked = [] ↔
      ∀ other, other ≠ marked → ¬ plan.tasks.DependsOn other marked := by
  simp [dependents, TaskList.positions, TaskList.DependsOn]

/-- The last task is marked as such, and no other task depends on it. -/
theorem last?_eq_some_iff {plan : Plan} {marked : Fin plan.tasks.size} :
    plan.last? = some marked ↔
      plan.last = some (plan.tasks.id marked) ∧
        ∀ other, other ≠ marked → ¬ plan.tasks.DependsOn other marked := by
  rw [← dependents_eq_nil_iff]
  simp [last?, Option.bind_eq_some_iff, TaskList.position?_eq_some_iff]

/-- Some task that knows what it assigns, assigns a variable of the name. -/
def Assigns (plan : Plan) (name : String) : Prop :=
  ∃ task ∈ plan.tasks.items, ∃ assigned, task.body.outputs = .ok assigned ∧
    ∃ slot ∈ assigned, slot.name = name

/-- The last task has to be a task of the plan on which no other task depends. -/
inductive LastFinding (plan : Plan) : List Problem → Prop
  | unmarked : plan.last = none → LastFinding plan []
  | foreign {id : TaskId} : plan.last = some id → plan.tasks.Foreign id →
      LastFinding plan [.unknownMarker .last id]
  | free {marked : Fin plan.tasks.size} : plan.last = some (plan.tasks.id marked) →
      (∀ other, other ≠ marked → ¬ plan.tasks.DependsOn other marked) → LastFinding plan []
  | needed {marked : Fin plan.tasks.size} {dependents : List (Fin plan.tasks.size)} :
      plan.last = some (plan.tasks.id marked) → dependents ≠ [] → dependents.Pairwise (· < ·) →
      (∀ other, other ∈ dependents ↔ other ≠ marked ∧ plan.tasks.DependsOn other marked) →
      LastFinding plan [.dependsOnLast (plan.tasks.task marked).name
        (dependents.map fun other => (plan.tasks.task other).name)]

/-- The last task before the generation has to be a task of the plan. -/
inductive PregenerationFinding (plan : Plan) : List Problem → Prop
  | unmarked : plan.pregenerationLast = none → PregenerationFinding plan []
  | foreign {id : TaskId} : plan.pregenerationLast = some id → plan.tasks.Foreign id →
      PregenerationFinding plan [.unknownMarker .pregenerationLast id]
  | own {marked : Fin plan.tasks.size} :
      plan.pregenerationLast = some (plan.tasks.id marked) → PregenerationFinding plan []

inductive TaskFinding (plan : Plan) (task : Task) : List Problem → Prop
  | passed : task.isConfigured plan.env = .ok true → TaskFinding plan task []
  | refused : task.isConfigured plan.env = .ok false →
      TaskFinding plan task [.invalidTask task.kind task.name]
  | lacking {error : Unassigned} : task.isConfigured plan.env = .error error →
      TaskFinding plan task [.unassigned task.name error]

/-- The validator looks at the set of the imports of all tasks. -/
inductive ImportFinding (plan : Plan) : List Problem → Prop
  | accepted {imports answer : ImportSet} :
      (∀ statement, statement ∈ imports ↔
        ∃ task ∈ plan.tasks.items, statement ∈ task.body.imports) →
      plan.env.validateImports imports = .ok answer → ImportFinding plan []
  | rejected {imports : ImportSet} {rejected : NonEmpty Import} :
      (∀ statement, statement ∈ imports ↔
        ∃ task ∈ plan.tasks.items, statement ∈ task.body.imports) →
      plan.env.validateImports imports = .error rejected →
      ImportFinding plan (rejected.toList.map .rejectedImport)

/-- The imports of all tasks that are rejected each by itself, each once and in ascending order. -/
inductive RejectedFinding (plan : Plan) (rejects : Import → Bool) : List Problem → Prop
  | rejected {imports : List Import} : Ascending.IsSorted imports →
      (∀ statement, statement ∈ imports ↔ rejects statement = true ∧
        ∃ task ∈ plan.tasks.items, statement ∈ task.body.imports) →
      RejectedFinding plan rejects (imports.map .rejectedImport)

inductive CodeFinding (task : Task) : List Problem → Prop
  | given {code : String} : task.body.code = .ok code → CodeFinding task []
  | lacking {error : Unassigned} : task.body.code = .error error →
      CodeFinding task [.unassigned task.name error]

theorem lastFinding (plan : Plan) : plan.LastFinding plan.lastProblems := by
  unfold lastProblems
  cases hlast : plan.last with
  | none => exact .unmarked hlast
  | some id =>
      dsimp only
      cases hposition : plan.tasks.position? id with
      | none => exact .foreign hlast (TaskList.position?_eq_none_iff.mp hposition)
      | some marked =>
          obtain rfl := TaskList.position?_eq_some_iff.mp hposition
          dsimp only
          split
          · rename_i hfree
            exact .free hlast (dependents_eq_nil_iff.mp (List.isEmpty_iff.mp hfree))
          · rename_i hneeded
            refine .needed hlast ?_ ((List.pairwise_lt_finRange _).filter _) ?_
            · intro hnone
              rw [dependents, hnone] at hneeded
              exact hneeded rfl
            · simp [TaskList.positions, TaskList.DependsOn]

theorem pregenerationFinding (plan : Plan) :
    plan.PregenerationFinding plan.pregenerationProblems := by
  unfold pregenerationProblems
  cases hlast : plan.pregenerationLast with
  | none => exact .unmarked hlast
  | some id =>
      dsimp only
      cases hposition : plan.tasks.position? id with
      | none => exact .foreign hlast (TaskList.position?_eq_none_iff.mp hposition)
      | some marked =>
          obtain rfl := TaskList.position?_eq_some_iff.mp hposition
          exact .own hlast

theorem LastFinding.mem_imp {plan : Plan} {found : List Problem} {problem : Problem}
    (hfound : plan.LastFinding found) (hproblem : problem ∈ found) :
    (∃ id, problem = .unknownMarker .last id) ∨
      ∃ last dependents, problem = .dependsOnLast last dependents := by
  cases hfound with
  | unmarked | free => cases hproblem
  | foreign => exact .inl ⟨_, List.mem_singleton.mp hproblem⟩
  | needed => exact .inr ⟨_, _, List.mem_singleton.mp hproblem⟩

theorem PregenerationFinding.mem_imp {plan : Plan} {found : List Problem} {problem : Problem}
    (hfound : plan.PregenerationFinding found) (hproblem : problem ∈ found) :
    ∃ id, problem = .unknownMarker .pregenerationLast id := by
  cases hfound with
  | unmarked | own => cases hproblem
  | foreign => exact ⟨_, List.mem_singleton.mp hproblem⟩

theorem mem_assignedNames_iff {plan : Plan} {name : String} :
    name ∈ plan.assignedNames ↔ plan.Assigns name := by
  unfold assignedNames Assigns
  rw [List.mem_flatMap]
  refine exists_congr fun task => and_congr_right fun _ => ?_
  cases task.body.outputs <;> simp [VariableSet.names]

theorem taskFinding (plan : Plan) (task : Task) :
    plan.TaskFinding task (plan.taskProblem? task).toList := by
  unfold taskProblem?
  split
  · rename_i h
    exact .passed h
  · rename_i h
    exact .refused h
  · rename_i h
    exact .lacking h

theorem mem_imports_iff {plan : Plan} {statement : Import} :
    statement ∈ plan.imports ↔ ∃ task ∈ plan.tasks.items, statement ∈ task.body.imports := by
  simp [imports]

theorem importFinding (plan : Plan) : plan.ImportFinding plan.importProblems := by
  unfold importProblems rejectedImports
  cases hanswer : plan.env.validateImports plan.imports with
  | ok answer => exact .accepted (fun _ => mem_imports_iff) hanswer
  | error rejected => exact .rejected (fun _ => mem_imports_iff) hanswer

theorem mem_rejectedImports_iff {plan : Plan} {valid : Import → Prop}
    (hchecks : plan.env.validateImports.Checks valid) {statement : Import} :
    statement ∈ plan.rejectedImports ↔
      ¬ valid statement ∧ ∃ task ∈ plan.tasks.items, statement ∈ task.body.imports := by
  rw [rejectedImports, ← mem_imports_iff]
  by_cases hvalid : ∀ other ∈ plan.imports, valid other
  · rw [hchecks.unchanged _ hvalid]
    exact iff_of_false List.not_mem_nil fun h => h.1 (hvalid statement h.2)
  · obtain ⟨rejected, hanswer, hoffending⟩ := hchecks.offending _ hvalid
    rw [hanswer, and_comm]
    exact hoffending statement

theorem rejectedImports_eq_filter {plan : Plan} {rejects : Import → Bool}
    (hrejects : plan.env.validateImports = .rejecting rejects) :
    plan.rejectedImports = plan.imports.items.filter rejects := by
  rw [rejectedImports, hrejects, ImportValidator.rejecting]
  cases hrejected : NonEmpty.ofList? (plan.imports.items.filter rejects) with
  | none => exact (NonEmpty.ofList?_eq_none_iff.mp hrejected).symm
  | some rejected => exact (NonEmpty.ofList?_eq_some_iff.mp hrejected).symm

theorem rejectedFinding {plan : Plan} {rejects : Import → Bool}
    (hrejects : plan.env.validateImports = .rejecting rejects) :
    plan.RejectedFinding rejects plan.importProblems := by
  rw [importProblems, rejectedImports_eq_filter hrejects]
  refine .rejected (plan.imports.isSorted.filter _) fun statement => ?_
  rw [List.mem_filter, AscendingSet.mem_items, mem_imports_iff, and_comm]

theorem codeFinding (tasks : List Task) : Itemwise CodeFinding tasks (codeProblems tasks) := by
  refine .of_filterMap fun task => ?_
  split
  · rename_i h
    exact .given h
  · rename_i h
    exact .lacking h

end Plan

end TaskScript
