/-
What the operations of a block make of a draft.  A declaration that fails leaves the draft as it
was, and no operation puts a registry of the draft out of step with its index.
-/
import TaskScript.Proofs.Task.Declaration

namespace TaskScript.Block

theorem run_map {α β : Type} (f : α → β) (block : Block α) (draft : Draft) :
    (do return f (← block) : Block β).run.run draft =
      ((block.run.run draft).1.map f, (block.run.run draft).2) := by
  simp only [ExceptT.run_bind, StateT.run_bind]
  rcases block.run.run draft with ⟨failure | value, next⟩ <;> rfl

theorem run_get_bind {α : Type} (next : Draft → Block α) (draft : Draft) :
    (get >>= next).run.run draft = (next draft).run.run draft := rfl

theorem run_drawName (draft : Draft) :
    drawName.run.run draft = (.ok draft.names.draw.1, { draft with names := draft.names.draw.2 }) :=
  rfl

theorem run_declare (name : String) (draft : Draft) :
    (declare name).run.run draft =
      if name ∈ draft.declared.keys then (.error (.nameTaken name), draft)
      else (.ok (draft.env.variableNamed name),
        { draft with declared := draft.declared.store (draft.env.variableNamed name) }) := by
  have hname : Named.name (draft.env.variableNamed name) = name := rfl
  rw [declare, run_get_bind]
  dsimp only
  rw [Registry.insert_eq, hname]
  by_cases htaken : name ∈ draft.declared.keys
  · simp only [if_pos htaken]
    rfl
  · simp only [if_neg htaken]
    rfl

theorem run_store (declared : Except Failure TaskId × TaskList) (draft : Draft) :
    (store declared).run.run draft = (declared.1, { draft with tasks := declared.2 }) := by
  obtain ⟨failure | id, tasks⟩ := declared <;> rfl

theorem run_create (type : TaskType) (name : String) (setup : Setup) (draft : Draft) :
    (create type name setup).run.run draft =
      (store (draft.tasks.create type name setup)).run.run draft := rfl

theorem run_createKind (kind : TaskKind) (name : String) (setup : Setup) (draft : Draft) :
    (createKind kind name setup).run.run draft =
      (create (.builtIn kind) name setup).run.run draft := by
  rw [run_create, ← TaskList.createKind_eq_create]
  rfl

theorem run_declareUnique (draft : Draft) :
    declareUnique.run.run draft =
      (declare (draft.names.drawFree draft.declared.keys).1).run.run
        { draft with names := (draft.names.drawFree draft.declared.keys).2 } := rfl

theorem run_createUnnamed (type : TaskType) (setup : Setup) (draft : Draft) :
    (createUnnamed type setup).run.run draft =
      (create type (draft.names.drawFree draft.tasks.registry.keys).1 setup).run.run
        { draft with names := (draft.names.drawFree draft.tasks.registry.keys).2 } := rfl

theorem run_createOnce (type : TaskType) (setup : Setup) (draft : Draft) :
    (createOnce type setup).run.run draft =
      match draft.tasks.firstOfKind? type.declaredKind with
      | some id => (.ok (id, false), draft)
      | none =>
          (((createUnnamed type setup).run.run draft).1.map (·, true),
            ((createUnnamed type setup).run.run draft).2) := by
  rw [createOnce, run_get_bind]
  cases draft.tasks.firstOfKind? type.declaredKind with
  | some id => rfl
  | none => exact run_map (·, true) (createUnnamed type setup) draft

theorem run_change (id : TaskId) (setup : Setup) (draft : Draft) :
    (change id setup).run.run draft =
      match draft.tasks.change? id setup with
      | none => (.ok false, draft)
      | some (tasks, .ok ()) => (.ok true, { draft with tasks })
      | some (tasks, .error failure) => (.error failure, { draft with tasks }) := by
  rw [change, run_get_bind]
  rcases draft.tasks.change? id setup with _ | ⟨tasks, failure | _⟩ <;> rfl

theorem run_declare_snd_of_error {name : String} {draft : Draft} {failure : Failure}
    (hfails : ((declare name).run.run draft).1 = .error failure) :
    ((declare name).run.run draft).2 = draft := by
  rw [run_declare] at hfails ⊢
  by_cases htaken : name ∈ draft.declared.keys
  · rw [if_pos htaken]
  · rw [if_neg htaken] at hfails
    cases hfails

theorem run_create_snd_of_error {type : TaskType} {name : String} {setup : Setup} {draft : Draft}
    {failure : Failure} (hfails : ((create type name setup).run.run draft).1 = .error failure) :
    ((create type name setup).run.run draft).2 = draft := by
  rw [run_create, run_store] at hfails ⊢
  cases draft.tasks.declares type name setup with
  | stores _ _ _ _ hcreate =>
      rw [hcreate] at hfails
      cases hfails
  | fails hcreate _ => rw [hcreate]

end TaskScript.Block

namespace TaskScript

/-- The registries of the draft are in step with their indexes. -/
structure Draft.InStep (draft : Draft) : Prop where
  declared : draft.declared.InStep
  tasks : draft.tasks.registry.InStep

theorem Session.inStep_start (session : Session) (env : Environment) :
    (session.start env).1.InStep :=
  ⟨Registry.inStep_empty, Registry.inStep_empty⟩

theorem TaskList.inStep_create {tasks : TaskList} (hstep : tasks.registry.InStep) (type : TaskType)
    (name : String) (setup : Setup) : (tasks.create type name setup).2.registry.InStep := by
  cases tasks.declares type name setup with
  | stores _ _ _ hfresh hcreate =>
      rw [hcreate]
      exact hstep.store hfresh
  | fails hcreate _ =>
      rw [hcreate]
      exact hstep

theorem TaskList.inStep_modify {tasks : TaskList} (hstep : tasks.registry.InStep) (id : TaskId)
    (change : Task → Task) : (tasks.modify id change).registry.InStep := by
  unfold modify
  split
  · exact hstep.modify _ _
  · exact hstep

namespace Block

variable {α β : Type}

/-- The block puts no registry of a draft out of step, whether it fails or not. -/
def KeepsStep (block : Block α) : Prop := ∀ draft, draft.InStep → (block.run.run draft).2.InStep

theorem keepsStep_pure (value : α) : (pure value : Block α).KeepsStep := fun _ hstep => hstep

theorem KeepsStep.bind {block : Block α} {next : α → Block β} (hblock : block.KeepsStep)
    (hnext : ∀ value, (next value).KeepsStep) : (block >>= next).KeepsStep := by
  intro draft hstep
  have hstarted := hblock draft hstep
  simp only [ExceptT.run_bind, StateT.run_bind]
  cases hrun : block.run.run draft with
  | mk result final =>
      rw [hrun] at hstarted
      cases result with
      | error failure => exact hstarted
      | ok value => exact hnext value final hstarted

theorem keepsStep_declare (name : String) : (declare name).KeepsStep := by
  intro draft hstep
  rw [run_declare]
  split
  · exact hstep
  · rename_i hfree
    exact ⟨hstep.declared.store hfree, hstep.tasks⟩

theorem keepsStep_create (type : TaskType) (name : String) (setup : Setup) :
    (create type name setup).KeepsStep := by
  intro draft hstep
  rw [run_create, run_store]
  exact ⟨hstep.declared, TaskList.inStep_create hstep.tasks type name setup⟩

theorem keepsStep_createKind (kind : TaskKind) (name : String) (setup : Setup) :
    (createKind kind name setup).KeepsStep := by
  intro draft hstep
  rw [run_createKind]
  exact keepsStep_create _ _ _ draft hstep

theorem keepsStep_declareUnique : declareUnique.KeepsStep := by
  intro draft hstep
  rw [run_declareUnique]
  exact keepsStep_declare _ _ ⟨hstep.declared, hstep.tasks⟩

theorem keepsStep_createUnnamed (type : TaskType) (setup : Setup) :
    (createUnnamed type setup).KeepsStep := by
  intro draft hstep
  rw [run_createUnnamed]
  exact keepsStep_create _ _ _ _ ⟨hstep.declared, hstep.tasks⟩

theorem keepsStep_createOnce (type : TaskType) (setup : Setup) :
    (createOnce type setup).KeepsStep := by
  intro draft hstep
  rw [run_createOnce]
  cases draft.tasks.firstOfKind? type.declaredKind with
  | some id => exact hstep
  | none => exact keepsStep_createUnnamed type setup draft hstep

theorem keepsStep_change (id : TaskId) (setup : Setup) : (change id setup).KeepsStep := by
  intro draft hstep
  rw [run_change, TaskList.change?]
  cases draft.tasks.get? id with
  | none => exact hstep
  | some task =>
      have htasks := TaskList.inStep_modify hstep.tasks id fun _ => (setup.on task).1
      rw [Option.map_some]
      rcases hon : setup.on task with ⟨changed, failure | _⟩
      · exact ⟨hstep.declared, by rw [hon] at htasks; exact htasks⟩
      · exact ⟨hstep.declared, by rw [hon] at htasks; exact htasks⟩

end Block

end TaskScript
