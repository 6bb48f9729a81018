/-
Identifiers of other drafts in a plan.  Such an identifier adds no edge to the graph: the plan
without it has the same graph.  It is reported for each task that lists it and for each marker
that holds it.
-/
import TaskScript.Proofs.Plan.Outcome
import TaskScript.Proofs.Task.Correspondence
import TaskScript.Proofs.Task.Identifier

namespace TaskScript

/-- The task without the dependency, which it lists once if at all. -/
def Task.without (task : Task) (id : TaskId) : Task :=
  { task with dependencies := task.dependencies.erase id }

/-- The task that a problem says to depend on something foreign. -/
def Problem.dangling? : Problem → Option String
  | danglingDependency task => some task
  | unreadableImport _ | nameTaken _ | unassigned .. | invalidTask .. | invalidVariable _
  | rejectedImport _ | cycle _ | dependsOnLast .. | unknownMarker .. | missingRequired _
  | configuration _ => none

namespace TaskList

/-- The tasks without one of their dependencies. -/
def without (tasks : TaskList) (id : TaskId) : TaskList :=
  { tasks with
    registry := { tasks.registry with items := tasks.items.map (·.without id) } }

variable {tasks : TaskList} {id : TaskId}

@[simp] theorem size_without (tasks : TaskList) (id : TaskId) :
    (tasks.without id).size = tasks.size := by
  simp [without, size, Registry.size]

theorem items_without (tasks : TaskList) (id : TaskId) :
    (tasks.without id).items = tasks.items.map (·.without id) := rfl

theorem task_without (position : Fin tasks.size) :
    (tasks.without id).task (position.cast (tasks.size_without id).symm) =
      (tasks.task position).without id := by
  have hitem := getElem?_items (position.cast (tasks.size_without id).symm)
  rw [items_without, List.getElem?_map, Fin.val_cast, getElem?_items, Option.map_some] at hitem
  exact (Option.some.inj hitem).symm

theorem owns_without (tasks : TaskList) (id other : TaskId) :
    (tasks.without id).owns other = tasks.owns other := by
  rw [Bool.eq_iff_iff, owns_eq_true_iff, owns_eq_true_iff, size_without]
  rfl

theorem dependsOn_without_iff (hforeign : tasks.owns id = false)
    (task dependency : Fin tasks.size) :
    tasks.DependsOn task dependency ↔
      (tasks.without id).DependsOn (task.cast (tasks.size_without id).symm)
        (dependency.cast (tasks.size_without id).symm) := by
  have hne : tasks.id dependency ≠ id := (owns_eq_false_iff.mp hforeign dependency).symm
  rw [DependsOn, DependsOn, task_without]
  exact (AscendingSet.mem_erase_iff.trans (and_iff_left hne)).symm

end TaskList

namespace Plan

variable {plan : Plan} {id : TaskId}

/-- The plan in which no task depends on the identifier and no marker holds it. -/
def without (plan : Plan) (id : TaskId) : Plan :=
  { plan with
    tasks := plan.tasks.without id
    pregenerationLast := plan.pregenerationLast.filter (· ≠ id)
    last := plan.last.filter (· ≠ id) }

theorem size_without (plan : Plan) (id : TaskId) :
    plan.tasks.size = (plan.without id).tasks.size :=
  (plan.tasks.size_without id).symm

theorem dependsOn_without_iff (hforeign : plan.tasks.owns id = false)
    (task dependency : Fin plan.tasks.size) :
    plan.tasks.DependsOn task dependency ↔
      (plan.without id).tasks.DependsOn (task.cast (plan.size_without id))
        (dependency.cast (plan.size_without id)) :=
  TaskList.dependsOn_without_iff hforeign task dependency

/-- The identifier is that of no task, so a marker that holds the one of a task keeps it. -/
theorem filter_eq_some_id_iff (hforeign : plan.tasks.owns id = false) (marker : Option TaskId)
    (marked : Fin plan.tasks.size) :
    marker.filter (· ≠ id) = some ((plan.without id).tasks.id marked) ↔
      marker = some (plan.tasks.id marked) := by
  have hne : plan.tasks.id marked ≠ id := (TaskList.owns_eq_false_iff.mp hforeign marked).symm
  have hid : (plan.without id).tasks.id marked = plan.tasks.id marked := rfl
  rw [hid, Option.filter_eq_some_iff]
  simp [hne]

theorem pregenerationLast?_without (hforeign : plan.tasks.owns id = false) :
    (plan.without id).pregenerationLast? =
      plan.pregenerationLast?.map (Fin.cast (plan.size_without id)) := by
  refine eq_map_cast_of_iff _ fun marked => ?_
  rw [pregenerationLast?_eq_some_iff, pregenerationLast?_eq_some_iff]
  exact (filter_eq_some_id_iff hforeign _ marked).symm

theorem last?_without (hforeign : plan.tasks.owns id = false) :
    (plan.without id).last? = plan.last?.map (Fin.cast (plan.size_without id)) := by
  refine eq_map_cast_of_iff _ fun marked => ?_
  rw [last?_eq_some_iff, last?_eq_some_iff]
  refine and_congr (filter_eq_some_id_iff hforeign _ marked).symm
    (forall_cast_iff (plan.size_without id) fun other => ?_)
  rw [dependsOn_without_iff hforeign, ne_eq, ne_eq, Fin.cast_inj]

theorem hasEdge_graph_without_iff (hforeign : plan.tasks.owns id = false)
    (source target : Fin plan.tasks.size) :
    plan.graph.HasEdge source target ↔
      (plan.without id).graph.HasEdge (source.cast (plan.size_without id))
        (target.cast (plan.size_without id)) := by
  rw [graph, graph, pregenerationLast?_without hforeign, last?_without hforeign]
  exact TaskList.hasEdge_graph_cast_iff _ (dependsOn_without_iff hforeign)

/-- The name of the task, once for each of its dependencies that is foreign. -/
def danglingNames (plan : Plan) (task : Task) : List String :=
  (task.dependencies.items.filter fun other => !plan.tasks.owns other).map fun _ => task.name

/-- Only the search for dependencies that dangle reports such. -/
theorem filterMap_dangling?_problems (plan : Plan) :
    plan.problems.filterMap Problem.dangling? = plan.tasks.items.flatMap plan.danglingNames := by
  have hconfiguration : plan.configurationProblems.filterMap Problem.dangling? = [] := by
    rw [List.filterMap_eq_nil_iff]
    intro problem hproblem
    obtain ⟨failure, _, rfl⟩ := List.mem_map.mp hproblem
    unfold Problem.ofFailure
    split <;> rfl
  have hlast : plan.lastProblems.filterMap Problem.dangling? = [] := by
    rw [List.filterMap_eq_nil_iff]
    intro problem hproblem
    rcases plan.lastFinding.mem_imp hproblem with ⟨_, rfl⟩ | ⟨_, _, rfl⟩ <;> rfl
  have hpregeneration : plan.pregenerationProblems.filterMap Problem.dangling? = [] := by
    rw [List.filterMap_eq_nil_iff]
    intro problem hproblem
    obtain ⟨_, rfl⟩ := plan.pregenerationFinding.mem_imp hproblem
    rfl
  have htasks : plan.taskProblems.filterMap Problem.dangling? = [] := by
    rw [List.filterMap_eq_nil_iff]
    intro problem hproblem
    obtain ⟨task, _, hfound⟩ := List.mem_filterMap.mp hproblem
    rcases taskProblem?_eq_some_iff.mp hfound with ⟨_, rfl⟩ | ⟨_, _, rfl⟩ <;> rfl
  have hdangling : plan.danglingProblems.filterMap Problem.dangling? =
      plan.tasks.items.flatMap plan.danglingNames := by
    rw [danglingProblems, List.filterMap_flatMap]
    refine List.flatMap_congr fun task _ => ?_
    rw [List.filterMap_map, danglingNames, ← List.filterMap_eq_map]
    rfl
  rw [← hdangling]
  simp [problems, hconfiguration, hlast, hpregeneration, htasks, requiredProblems,
    variableProblems, importProblems, cycleProblems, List.filterMap_map,
    Function.comp_def, Problem.dangling?]

/-- A foreign identifier dangles once in each task that has it. -/
theorem perm_danglingNames (hforeign : plan.tasks.owns id = false) (task : Task) :
    (plan.danglingNames task).Perm
      ((plan.without id).danglingNames (task.without id) ++
        if id ∈ task.dependencies then [task.name] else []) := by
  have howns (other : TaskId) : (plan.without id).tasks.owns other = plan.tasks.owns other :=
    TaskList.owns_without ..
  simp only [danglingNames, howns, Task.without]
  split
  · rename_i hmem
    refine ((AscendingSet.perm_cons_erase hmem).filter _ |>.map _).trans ?_
    rw [List.filter_cons_of_pos (by simp [hforeign]), List.map_cons]
    exact (List.perm_append_singleton ..).symm
  · rename_i hnot
    rw [AscendingSet.erase_of_notMem hnot, List.append_nil]

theorem perm_dangling (hforeign : plan.tasks.owns id = false) :
    (plan.problems.filterMap Problem.dangling?).Perm
      ((plan.without id).problems.filterMap Problem.dangling? ++
        (plan.tasks.items.filter (id ∈ ·.dependencies)).map Task.name) := by
  have hlisting : (plan.tasks.items.filter (id ∈ ·.dependencies)).map Task.name =
      plan.tasks.items.flatMap fun task =>
        if id ∈ task.dependencies then [task.name] else [] := by
    induction plan.tasks.items with
    | nil => rfl
    | cons task rest ih =>
        rw [List.filter_cons, List.flatMap_cons, ← ih]
        by_cases hmem : id ∈ task.dependencies <;> simp [hmem]
  have hitems : (plan.without id).tasks.items = plan.tasks.items.map (·.without id) :=
    TaskList.items_without ..
  rw [filterMap_dangling?_problems, filterMap_dangling?_problems, hlisting, hitems,
    List.flatMap_map]
  refine .trans ?_ (List.flatMap_append_perm ..).symm
  exact List.Perm.flatMap_left _ fun task _ => perm_danglingNames hforeign task

/-- What a marker holds. -/
def marked? (plan : Plan) : Marker → Option TaskId
  | .last => plan.last
  | .pregenerationLast => plan.pregenerationLast

theorem unknownMarker_mem_lastProblems_iff {marker : Marker} :
    .unknownMarker marker id ∈ plan.lastProblems ↔
      marker = .last ∧ plan.last = some id ∧ plan.tasks.Foreign id := by
  have hown (marked : Fin plan.tasks.size) (hmarked : plan.last = some (plan.tasks.id marked)) :
      ¬ (marker = .last ∧ plan.last = some id ∧ plan.tasks.Foreign id) := by
    rintro ⟨_, hid, hforeign⟩
    exact hforeign marked (Option.some.inj (hid.symm.trans hmarked))
  have hfinding := plan.lastFinding
  generalize plan.lastProblems = found at hfinding
  cases hfinding with
  | unmarked hnone => simp [hnone]
  | foreign hother hforeign =>
      rw [hother, List.mem_singleton, Problem.unknownMarker.injEq, Option.some.injEq]
      refine and_congr_right fun _ => ⟨?_, fun h => h.1.symm⟩
      rintro rfl
      exact ⟨rfl, hforeign⟩
  | free hmarked => simpa using hown _ hmarked
  | needed hmarked => simpa using hown _ hmarked

theorem unknownMarker_mem_pregenerationProblems_iff {marker : Marker} :
    .unknownMarker marker id ∈ plan.pregenerationProblems ↔
      marker = .pregenerationLast ∧ plan.pregenerationLast = some id ∧ plan.tasks.Foreign id := by
  have hfinding := plan.pregenerationFinding
  generalize plan.pregenerationProblems = found at hfinding
  cases hfinding with
  | unmarked hnone => simp [hnone]
  | foreign hother hforeign =>
      rw [hother, List.mem_singleton, Problem.unknownMarker.injEq, Option.some.injEq]
      refine and_congr_right fun _ => ⟨?_, fun h => h.1.symm⟩
      rintro rfl
      exact ⟨rfl, hforeign⟩
  | own hmarked =>
      rw [List.mem_nil_iff, false_iff]
      rintro ⟨_, hid, hforeign⟩
      exact hforeign _ (Option.some.inj (hid.symm.trans hmarked))

/-- A marker is unknown exactly when it holds a foreign identifier. -/
theorem unknownMarker_mem_problems_iff {marker : Marker} :
    .unknownMarker marker id ∈ plan.problems ↔
      plan.marked? marker = some id ∧ plan.tasks.Foreign id := by
  have hfailure (failure : Failure) : Problem.ofFailure failure ≠ .unknownMarker marker id := by
    unfold Problem.ofFailure
    split <;> simp
  have hmarkers : (.unknownMarker marker id ∈ plan.lastProblems ∨
      .unknownMarker marker id ∈ plan.pregenerationProblems) ↔
        plan.marked? marker = some id ∧ plan.tasks.Foreign id := by
    rw [unknownMarker_mem_lastProblems_iff, unknownMarker_mem_pregenerationProblems_iff]
    cases marker <;> simp [marked?]
  rw [← hmarkers]
  simp [problems, configurationProblems, hfailure, requiredProblems, variableProblems,
    taskProblems, taskProblem?_eq_some_iff, importProblems, danglingProblems, cycleProblems]

/-- What comes of an identifier of another draft in a plan: no edge of its graph, one problem
for each task that lists it and one for each marker that holds it, in place of a script. -/
structure Isolates (plan : Plan) (id : TaskId) : Prop where
  edges : ∀ source target, plan.graph.HasEdge source target ↔
    (plan.without id).graph.HasEdge (source.cast (plan.size_without id))
      (target.cast (plan.size_without id))
  dangling : (plan.problems.filterMap Problem.dangling?).Perm
    ((plan.without id).problems.filterMap Problem.dangling? ++
      (plan.tasks.items.filter (id ∈ ·.dependencies)).map Task.name)
  unknown : ∀ marker, .unknownMarker marker id ∈ plan.problems ↔ plan.marked? marker = some id
  reported : (∃ task ∈ plan.tasks.items, id ∈ task.dependencies) ∨
      (∃ marker, plan.marked? marker = some id) →
    ∀ comments, ∃ problems, plan.text comments = .error problems ∧
      problems.toList = plan.problems

theorem isolates_of_foreign (hforeign : plan.tasks.owns id = false) : plan.Isolates id where
  edges := hasEdge_graph_without_iff hforeign
  dangling := perm_dangling hforeign
  unknown marker := by
    rw [unknownMarker_mem_problems_iff, ← TaskList.owns_eq_false_iff]
    exact and_iff_left hforeign
  reported hused comments := by
    have hne : plan.problems ≠ [] := by
      rcases hused with ⟨task, htask, hmem⟩ | ⟨marker, hmarked⟩
      · have hlisted : task.name ∈ plan.problems.filterMap Problem.dangling? := by
          refine (perm_dangling hforeign).mem_iff.mpr (List.mem_append_right _ ?_)
          exact List.mem_map_of_mem (List.mem_filter.mpr ⟨htask, by simpa using hmem⟩)
        rintro hnil
        rw [hnil] at hlisted
        cases hlisted
      · refine List.ne_nil_of_mem (unknownMarker_mem_problems_iff.mpr ⟨hmarked, ?_⟩)
        exact TaskList.owns_eq_false_iff.mp hforeign
    obtain ⟨problems, hproblems⟩ := NonEmpty.exists_eq_toList_of_ne_nil hne
    exact ⟨problems, text_eq_error_iff.mpr (.inl hproblems), hproblems.symm⟩

end Plan

end TaskScript
