/-
Blocks that succeed, step by step.  Each operation has a rule that says what it answers and what
it makes of the draft, under the condition that a name is free; a block that is put together of
such steps runs from draft to draft.
-/
import TaskScript.Plan
import TaskScript.Proofs.Draft.Run
import TaskScript.Proofs.Naming.FreeNumber

namespace TaskScript

namespace TaskList

@[simp] theorem registry_store (tasks : TaskList) (task : Task) :
    (tasks.store task).registry = tasks.registry.store task := rfl

end TaskList

@[simp] theorem Environment.name_variableNamed (env : Environment) (name : String) :
    Named.name (env.variableNamed name) = name := rfl

namespace Block

variable {α β : Type} {draft next final : Draft}

/-- The block succeeds with a value and leaves this draft. -/
def Runs (block : Block α) (draft : Draft) (value : α) (next : Draft) : Prop :=
  block.run.run draft = (.ok value, next)

theorem Runs.bind {block : Block α} {rest : α → Block β} {first : α} {second : β}
    (hblock : block.Runs draft first next) (hrest : (rest first).Runs next second final) :
    (block >>= rest).Runs draft second final := by
  unfold Runs at *
  rw [ExceptT.run_bind, StateT.run_bind, hblock]
  exact hrest

theorem Runs.configure {block : Block Unit} (hblock : block.Runs draft () next) :
    draft.configure block = { next with } := by
  unfold Runs at hblock
  rw [Draft.configure, hblock]

theorem runs_pure (value : α) (draft : Draft) : (pure value : Block α).Runs draft value draft := rfl

theorem runs_require (wanted : Variable) (draft : Draft) :
    (require wanted).Runs draft ()
      { draft with required := ⟨draft.required.items ++ [wanted]⟩ } := rfl

theorem runs_markLast (id : Option TaskId) (draft : Draft) :
    (markLast id).Runs draft () { draft with last := id } := rfl

theorem runs_markPregenerationLast (id : Option TaskId) (draft : Draft) :
    (markPregenerationLast id).Runs draft () { draft with pregenerationLast := id } := rfl

theorem runs_drawElsewhere (count : Nat) (draft : Draft) :
    (drawElsewhere count).Runs draft () { draft with names := ⟨draft.names.next + count⟩ } := by
  rw [← NameSupply.drawMany_snd]
  rfl

theorem runs_declare {name : String} (hfree : name ∉ draft.declared.keys) :
    (declare name).Runs draft (draft.env.variableNamed name)
      { draft with declared := draft.declared.store (draft.env.variableNamed name) } := by
  rw [Runs, run_declare, if_neg hfree]

theorem runs_declareUnique (hfree : NameSupply.nameAt draft.names.next ∉ draft.declared.keys) :
    declareUnique.Runs draft (draft.env.variableNamed (NameSupply.nameAt draft.names.next))
      { draft with
        names := ⟨draft.names.next + 1⟩
        declared := draft.declared.store
          (draft.env.variableNamed (NameSupply.nameAt draft.names.next)) } := by
  rw [Runs, run_declareUnique, NameSupply.drawFree_of_notMem hfree]
  exact runs_declare hfree

section Create

variable {type : TaskType} {name : String} {setup : Setup} {body : Body} {task : Task}

theorem runs_create (hblank : type.blank? = some body)
    (hsetup : setup.apply { body, name } = .ok task) (hname : task.name = name)
    (hfree : name ∉ draft.tasks.registry.keys) :
    (create type name setup).Runs draft (draft.tasks.id draft.tasks.size)
      { draft with tasks := draft.tasks.store task } := by
  rw [Runs, run_create, run_store, TaskList.create_eq_ok hblank hfree hsetup (hname ▸ hfree)]

/-- The first task of its kind gets a generated name. -/
theorem runs_createOnce (hnone : draft.tasks.firstOfKind? type.declaredKind = none)
    (hblank : type.blank? = some body)
    (hsetup : setup.apply { body, name := NameSupply.nameAt draft.names.next } = .ok task)
    (hname : task.name = NameSupply.nameAt draft.names.next)
    (hfree : NameSupply.nameAt draft.names.next ∉ draft.tasks.registry.keys) :
    (createOnce type setup).Runs draft (draft.tasks.id draft.tasks.size, true)
      { draft with names := ⟨draft.names.next + 1⟩, tasks := draft.tasks.store task } := by
  have hcreate : (createUnnamed type setup).run.run draft =
      (.ok (draft.tasks.id draft.tasks.size),
        { draft with names := ⟨draft.names.next + 1⟩, tasks := draft.tasks.store task }) := by
    rw [run_createUnnamed, NameSupply.drawFree_of_notMem hfree]
    exact runs_create hblank hsetup hname hfree
  rw [Runs, run_createOnce, hnone, hcreate]
  rfl

end Create

end Block

end TaskScript
