/-
What the text of a plan does not depend on.  Two plans whose tasks do the same, position by
position, and require the same give the same text, whatever their tasks are called and
whichever of the dependencies that others imply they list.
-/
import TaskScript.Proofs.Plan.Arrangement
import TaskScript.Proofs.Script.Layout

namespace TaskScript

/-- The names of the variables that a task assigns; none if it lacks a field for the answer. -/
def Body.assignedNames (body : Body) : List String :=
  match body.outputs with
  | .ok set => set.names
  | .error _ => []

namespace Plan

/-- The block succeeded, and all dependencies are tasks of the plan. -/
structure SelfContained (plan : Plan) : Prop where
  configured : plan.failure? = none
  owned : ∀ task ∈ plan.tasks.items, ∀ id ∈ task.dependencies, plan.tasks.owns id = true

theorem size_eq_of_bodies_eq {left right : Plan} (hbodies : left.bodies = right.bodies) :
    left.tasks.size = right.tasks.size := by
  simpa [bodies] using congrArg List.length hbodies

/-- Two plans differ in nothing but the names of the tasks and in dependencies that others
imply. -/
structure Agree (left right : Plan) : Prop where
  left_contained : left.SelfContained
  right_contained : right.SelfContained
  env : left.env = right.env
  declared : left.declared.items = right.declared.items
  required : left.required.items = right.required.items
  places : ∀ marker, left.place? marker = right.place? marker
  bodies : left.bodies = right.bodies
  requires : ∀ task dependency, left.tasks.Requires task dependency ↔
    right.tasks.Requires (task.cast (size_eq_of_bodies_eq bodies))
      (dependency.cast (size_eq_of_bodies_eq bodies))

theorem danglingProblems_eq_nil {plan : Plan} (hcontained : plan.SelfContained) :
    plan.danglingProblems = [] := by
  rw [danglingProblems, List.flatMap_eq_nil_iff]
  intro task htask
  rw [List.map_eq_nil_iff, List.filter_eq_nil_iff]
  intro id hid
  simp [hcontained.owned task htask id hid]

namespace Agree

variable {left right : Plan} (hagree : left.Agree right)

include hagree

theorem arranged : left.Arranged right :=
  ⟨size_eq_of_bodies_eq hagree.bodies, hagree.places, hagree.requires⟩

theorem map_body_orderedTasks :
    right.orderedTasks.map (·.body) = left.orderedTasks.map (·.body) := by
  rw [orderedTasks, orderedTasks, hagree.arranged.order_eq]
  simp only [List.map_map]
  refine List.map_congr_left fun position _ => ?_
  have hright := body_task (position.cast hagree.arranged.size_eq)
  rw [← hagree.bodies] at hright
  exact Option.some.inj (hright.symm.trans (body_task position))

theorem assignedNames_eq : left.assignedNames = right.assignedNames := by
  have hassigned (plan : Plan) : plan.assignedNames = plan.bodies.flatMap Body.assignedNames := by
    rw [Plan.bodies, List.flatMap_map]
    rfl
  rw [hassigned, hassigned, hagree.bodies]

theorem imports_eq : left.imports = right.imports := by
  have himports (plan : Plan) :
      plan.imports = .ofList (plan.bodies.flatMap (·.imports.items)) := by
    rw [Plan.bodies, List.flatMap_map]
    rfl
  rw [himports, himports, hagree.bodies]

theorem taskProblems_eq_nil_iff : left.taskProblems = [] ↔ right.taskProblems = [] := by
  have hbodies (plan : Plan) : plan.taskProblems = [] ↔
      ∀ body ∈ plan.bodies, body.isConfigured plan.env = .ok true := by
    rw [Plan.taskProblems_eq_nil_iff, Plan.bodies, List.forall_mem_map]
    rfl
  rw [hbodies, hbodies, hagree.bodies, hagree.env]

theorem marked?_eq_none (marker : Marker) :
    left.marked? marker = none ↔ right.marked? marker = none := by
  rw [marked?_eq_none_iff, marked?_eq_none_iff, hagree.places]

theorem lastProblems_eq_nil_iff : left.lastProblems = [] ↔ right.lastProblems = [] := by
  have hnone : left.last = none ↔ right.last = none := hagree.marked?_eq_none .last
  rw [Plan.lastProblems_eq_nil_iff, Plan.lastProblems_eq_nil_iff, hagree.arranged.last?_eq]
  cases left.last? with
  | some marked => simp
  | none => simpa [Option.eq_none_iff_forall_ne_some] using hnone

theorem pregenerationProblems_eq_nil_iff :
    left.pregenerationProblems = [] ↔ right.pregenerationProblems = [] := by
  have hnone : left.pregenerationLast = none ↔ right.pregenerationLast = none :=
    hagree.marked?_eq_none .pregenerationLast
  rw [Plan.pregenerationProblems_eq_nil_iff, Plan.pregenerationProblems_eq_nil_iff,
    hagree.arranged.pregenerationLast?_eq]
  cases left.pregenerationLast? with
  | some marked => simp
  | none => simpa [Option.eq_none_iff_forall_ne_some] using hnone

/-- Nothing is wrong with one plan exactly when nothing is wrong with the other. -/
theorem problems_eq_nil_iff : left.problems = [] ↔ right.problems = [] := by
  have hconfiguration (plan : Plan) (hcontained : plan.SelfContained) :
      plan.configurationProblems = [] := by
    rw [configurationProblems, hcontained.configured]
    rfl
  have hrequired : left.requiredProblems = right.requiredProblems := by
    rw [requiredProblems, requiredProblems, hagree.required, hagree.assignedNames_eq]
  have hvariables : left.variableProblems = right.variableProblems := by
    rw [variableProblems, variableProblems, hagree.declared]
  have himports : left.importProblems = right.importProblems := by
    rw [importProblems, importProblems, rejectedImports, rejectedImports, hagree.env,
      hagree.imports_eq]
  have hcycles : left.cycleProblems = [] ↔ right.cycleProblems = [] := by
    rw [cycleProblems_eq_nil_iff, cycleProblems_eq_nil_iff,
      Graph.acyclic_cast_iff_of_transGen_iff hagree.arranged.size_eq
        hagree.arranged.transGen_graph_iff]
  simp only [problems, List.append_eq_nil_iff, hconfiguration left hagree.left_contained,
    hconfiguration right hagree.right_contained, danglingProblems_eq_nil hagree.left_contained,
    danglingProblems_eq_nil hagree.right_contained, hagree.lastProblems_eq_nil_iff,
    hagree.pregenerationProblems_eq_nil_iff, hrequired, hvariables,
    hagree.taskProblems_eq_nil_iff, himports, hcycles]

theorem codeProblems_eq_nil_iff :
    codeProblems left.orderedTasks = [] ↔ codeProblems right.orderedTasks = [] := by
  have hbodies (plan : Plan) : codeProblems plan.orderedTasks = [] ↔
      ∀ body ∈ plan.orderedTasks.map (·.body), ∃ code, body.code = .ok code := by
    rw [Plan.codeProblems_eq_nil_iff, List.forall_mem_map]
  rw [hbodies, hbodies, hagree.map_body_orderedTasks]

end Agree

/-- Plans that agree give the same text, or both give none. -/
theorem text_eq_ok_iff_of_agree {left right : Plan} (hagree : left.Agree right) (text : String) :
    left.text false = .ok text ↔ right.text false = .ok text := by
  rw [text_eq_ok_iff, text_eq_ok_iff, hagree.problems_eq_nil_iff, hagree.codeProblems_eq_nil_iff,
    Script.text_ofTasks, Script.text_ofTasks, hagree.map_body_orderedTasks]

/-- Four tasks with both markers, of which the third lists a dependency that the second
implies. -/
def spelledOut : Plan where
  env := { acceptsPath := fun _ => true }
  names := {}
  tasks := .ofItems 1 [
      { body := .custom { code := .ok "a" }, name := "a" },
      { body := .custom { code := .ok "b" }, dependencies := .single ⟨1, 3⟩, name := "b" },
      { body := .custom { code := .ok "c" }, dependencies := .ofList [⟨1, 1⟩, ⟨1, 3⟩],
        name := "c" },
      { body := .custom { code := .ok "d" }, name := "d" }]
  pregenerationLast := some ⟨1, 1⟩
  last := some ⟨1, 0⟩

/-- The same tasks under other names, without the dependency that is implied. -/
def reduced : Plan where
  env := { acceptsPath := fun _ => true }
  names := {}
  tasks := .ofItems 2 [
      { body := .custom { code := .ok "a" }, name := "w" },
      { body := .custom { code := .ok "b" }, dependencies := .single ⟨2, 3⟩, name := "x" },
      { body := .custom { code := .ok "c" }, dependencies := .single ⟨2, 1⟩, name := "y" },
      { body := .custom { code := .ok "d" }, name := "z" }]
  pregenerationLast := some ⟨2, 1⟩
  last := some ⟨2, 0⟩

theorem text_eq_ok_iff_of_agree_reduced :
    spelledOut.Agree reduced ∧ spelledOut.text false = .ok "d\n\nb\n\nc\n\na" ∧
      reduced.text false = .ok "d\n\nb\n\nc\n\na" := by
  have hsize : spelledOut.tasks.size = reduced.tasks.size := rfl
  have hreduced : ∀ task dependency, spelledOut.tasks.DependsOn task dependency →
      reduced.tasks.DependsOn (task.cast hsize) (dependency.cast hsize) ∨
        ∃ between, reduced.tasks.DependsOn (task.cast hsize) between ∧
          reduced.tasks.DependsOn between (dependency.cast hsize) := by decide +revert
  have hspelled : ∀ task dependency,
      reduced.tasks.DependsOn (task.cast hsize) (dependency.cast hsize) →
        spelledOut.tasks.DependsOn task dependency := by decide +revert
  have hagree : spelledOut.Agree reduced :=
    { left_contained := ⟨rfl, by decide⟩
      right_contained := ⟨rfl, by decide⟩
      env := rfl
      declared := rfl
      required := rfl
      places := fun marker => by cases marker <;> rfl
      bodies := rfl
      requires := by
        refine transGen_cast_iff_of_closed hsize (fun task dependency hdepends => ?_)
          fun task dependency hdepends => .single (hspelled task dependency hdepends)
        rcases hreduced task dependency hdepends with hdirect | ⟨between, hfirst, hsecond⟩
        · exact .single hdirect
        · exact .tail (.single hfirst) hsecond }
  have htext : spelledOut.text false = .ok "d\n\nb\n\nc\n\na" := by cbv
  exact ⟨hagree, htext, (text_eq_ok_iff_of_agree hagree _).mp htext⟩

end Plan

end TaskScript
