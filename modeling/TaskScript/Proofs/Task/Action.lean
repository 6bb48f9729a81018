/-
What a block can do to the tasks of its draft.  It stores a task that it made at the end, finds
the first task of a kind, or changes one task in place; whatever fails leaves the tasks as they
are, unless a change failed halfway.
-/
import TaskScript.Proofs.Draft.Run
import TaskScript.Proofs.Task.Dependency

namespace TaskScript

namespace Block

/-- What a block does to the tasks of its draft. -/
inductive Action where
  | create (type : TaskType) (name : String) (setup : Setup)
  | createKind (kind : TaskKind) (name : String) (setup : Setup)
  | createUnnamed (type : TaskType) (setup : Setup)
  | createOnce (type : TaskType) (setup : Setup)
  | change (id : TaskId) (setup : Setup)

namespace Action

/-- The action as a program, which gives out an identifier unless it only changes a task. -/
def program : Action → Block (Option TaskId)
  | create type name setup => return some (← Block.create type name setup)
  | createKind kind name setup => return some (← Block.createKind kind name setup)
  | createUnnamed type setup => return some (← Block.createUnnamed type setup)
  | createOnce type setup => return some (← Block.createOnce type setup).1
  | change id setup => do
      let _ ← Block.change id setup
      return none

def on (action : Action) (draft : Draft) : Except Failure (Option TaskId) × Draft :=
  action.program.run.run draft

/-- Whatever a block does to its tasks leaves the registries of the draft in step. -/
theorem keepsStep_program (action : Action) : action.program.KeepsStep := by
  cases action with
  | create type name setup =>
      exact (keepsStep_create type name setup).bind fun _ => keepsStep_pure _
  | createKind kind name setup =>
      exact (keepsStep_createKind kind name setup).bind fun _ => keepsStep_pure _
  | createUnnamed type setup =>
      exact (keepsStep_createUnnamed type setup).bind fun _ => keepsStep_pure _
  | createOnce type setup =>
      exact (keepsStep_createOnce type setup).bind fun _ => keepsStep_pure _
  | change id setup => exact (keepsStep_change id setup).bind fun _ => keepsStep_pure _

/-- The registries of a new draft are in step after any run of actions, those that fail included. -/
theorem inStep_foldl_on (session : Session) (env : Environment) (actions : List Action) :
    (actions.foldl (fun draft action => (action.on draft).2) (session.start env).1).InStep :=
  List.foldlRecOn actions _ (session.inStep_start env) fun draft hstep action _ =>
    action.keepsStep_program draft hstep

/-- The action makes the task: its setup succeeds with it on the blank task of its type. -/
def Makes : Action → Task → Prop
  | create type name setup, task =>
      ∃ body, type.blank? = some body ∧ setup.apply { body, name } = .ok task
  | createKind kind name setup, task =>
      ∃ body, kind.blank? = some body ∧ setup.apply { body, name } = .ok task
  | createUnnamed type setup, task | createOnce type setup, task =>
      ∃ name body, type.blank? = some body ∧ setup.apply { body, name } = .ok task
  | change .., _ => False

/-- All that an action can do to the tasks of a list, and what it gives out.  An action that
fails without a trace is one that would have made a task. -/
inductive Effect (tasks : TaskList) :
    Action → Except Failure (Option TaskId) → TaskList → Prop where
  | stores {action : Action} {task : Task} (hmade : action.Makes task)
      (hfree : task.name ∉ tasks.registry.keys) :
      Effect tasks action (.ok (some (tasks.id tasks.size))) (tasks.store task)
  | finds {type : TaskType} {setup : Setup} {id : TaskId}
      (hfound : tasks.firstOfKind? type.declaredKind = some id) :
      Effect tasks (.createOnce type setup) (.ok (some id)) tasks
  | changes {id : TaskId} {setup : Setup} {task : Task} (hget : tasks.get? id = some task) :
      Effect tasks (.change id setup) ((setup.on task).2.map fun _ => none)
        (tasks.modify id fun _ => (setup.on task).1)
  | misses {id : TaskId} {setup : Setup} (hget : tasks.get? id = none) :
      Effect tasks (.change id setup) (.ok none) tasks
  | fails {action : Action} {failure : Failure}
      (hcreates : ∀ id setup, action ≠ .change id setup) :
      Effect tasks action (.error failure) tasks

theorem on_create (draft : Draft) (type : TaskType) (name : String) (setup : Setup) :
    (create type name setup).on draft =
      ((draft.tasks.create type name setup).1.map some,
        { draft with tasks := (draft.tasks.create type name setup).2 }) := by
  rw [on, program, run_map, run_create, run_store]

theorem on_createKind (draft : Draft) (kind : TaskKind) (name : String) (setup : Setup) :
    (createKind kind name setup).on draft = (create (.builtIn kind) name setup).on draft := by
  rw [on, on, program, program, run_map, run_map, run_createKind]

theorem on_createUnnamed (draft : Draft) (type : TaskType) (setup : Setup) :
    (createUnnamed type setup).on draft =
      (create type (draft.names.drawFree draft.tasks.registry.keys).1 setup).on
        { draft with names := (draft.names.drawFree draft.tasks.registry.keys).2 } := rfl

theorem on_createOnce (draft : Draft) (type : TaskType) (setup : Setup) :
    (createOnce type setup).on draft =
      match draft.tasks.firstOfKind? type.declaredKind with
      | some id => (.ok (some id), draft)
      | none => (createUnnamed type setup).on draft := by
  have hmap := run_map (fun answer : TaskId × Bool => some answer.1)
    (Block.createOnce type setup) draft
  rw [on, program, hmap, run_createOnce]
  cases draft.tasks.firstOfKind? type.declaredKind with
  | some id => rfl
  | none =>
      rw [on, program, run_map]
      cases ((Block.createUnnamed type setup).run.run draft).1 <;> rfl

theorem on_change (draft : Draft) (id : TaskId) (setup : Setup) :
    (change id setup).on draft =
      match draft.tasks.change? id setup with
      | none => (.ok none, draft)
      | some (tasks, .ok ()) => (.ok none, { draft with tasks })
      | some (tasks, .error failure) => (.error failure, { draft with tasks }) := by
  have hmap := run_map (fun _ : Bool => (none : Option TaskId)) (Block.change id setup) draft
  rw [on, program, hmap, run_change]
  rcases draft.tasks.change? id setup with _ | ⟨tasks, failure | _⟩ <;> rfl

theorem effect_create (draft : Draft) (type : TaskType) (name : String) (setup : Setup)
    {action : Action} (hcreates : ∀ id setup, action ≠ .change id setup)
    (hmakes : ∀ task, (create type name setup).Makes task → action.Makes task) :
    Effect draft.tasks action ((create type name setup).on draft).1
      ((create type name setup).on draft).2.tasks := by
  rw [on_create]
  cases draft.tasks.declares type name setup with
  | @stores body task hblank htask _ hfresh hcreate =>
      rw [hcreate]
      exact .stores (hmakes task ⟨body, hblank, htask⟩) hfresh
  | fails hcreate _ =>
      rw [hcreate]
      exact .fails hcreates

theorem effect_createUnnamed (draft : Draft) (type : TaskType) (setup : Setup) {action : Action}
    (hcreates : ∀ id setup, action ≠ .change id setup)
    (hmakes : ∀ task, (createUnnamed type setup).Makes task → action.Makes task) :
    Effect draft.tasks action ((createUnnamed type setup).on draft).1
      ((createUnnamed type setup).on draft).2.tasks := by
  rw [on_createUnnamed]
  exact effect_create { draft with names := (draft.names.drawFree draft.tasks.registry.keys).2 }
    type _ setup hcreates fun task hmade => hmakes task ⟨_, hmade⟩

theorem effect (action : Action) (draft : Draft) :
    Effect draft.tasks action (action.on draft).1 (action.on draft).2.tasks := by
  cases action with
  | create type name setup => exact effect_create draft type name setup nofun fun _ => id
  | createKind kind name setup =>
      rw [on_createKind]
      exact effect_create draft (.builtIn kind) name setup nofun fun _ => id
  | createUnnamed type setup => exact effect_createUnnamed draft type setup nofun fun _ => id
  | createOnce type setup =>
      rw [on_createOnce]
      cases hfirst : draft.tasks.firstOfKind? type.declaredKind with
      | some id => exact .finds hfirst
      | none => exact effect_createUnnamed draft type setup nofun fun _ => id
  | change id setup =>
      rw [on_change]
      cases hget : draft.tasks.get? id with
      | none =>
          simp only [TaskList.change?, hget, Option.map_none]
          exact .misses hget
      | some task =>
          have heffect : Effect draft.tasks (.change id setup) ((setup.on task).2.map fun _ => none)
              (draft.tasks.modify id fun _ => (setup.on task).1) := .changes hget
          simp only [TaskList.change?, hget, Option.map_some]
          rcases hon : setup.on task with ⟨changed, failure | _⟩
          · simpa only [hon, Except.map] using heffect
          · simpa only [hon, Except.map] using heffect

end Action

end Block

end TaskScript
