/-
Blocks call by call.  A declaration that fails leaves the draft as it was, so a block that goes
on after it ends the same if it is not made at all.
-/
import TaskScript.Plan
import TaskScript.Proofs.Draft.Run

namespace TaskScript.Block

/-- One call of a block, and what it answers. -/
inductive Call : Type → Type 1 where
  | declare (name : String) : Call Variable
  | create (type : TaskType) (name : String) (setup : Setup) : Call TaskId
  | createKind (kind : TaskKind) (name : String) (setup : Setup) : Call TaskId
  /-- Whatever else a block does with its draft. -/
  | other {α : Type} (block : Block α) : Call α

namespace Call

variable {α : Type}

def block : Call α → Block α
  | declare name => Block.declare name
  | create type name setup => Block.create type name setup
  | createKind kind name setup => Block.createKind kind name setup
  | other block => block

def on (call : Call α) (draft : Draft) : Except Failure α × Draft := call.block.run.run draft

/-- The call declares a variable or a task under a name that it gives. -/
def declares : Call α → Bool
  | declare _ | create .. | createKind .. => true
  | other _ => false

/-- A declaration that fails leaves no trace. -/
theorem on_snd_of_declares {call : Call α} (hdeclares : call.declares = true) {draft : Draft}
    {failure : Failure} (hfails : (call.on draft).1 = .error failure) :
    (call.on draft).2 = draft := by
  cases call with
  | declare name => exact run_declare_snd_of_error hfails
  | create type name setup => exact run_create_snd_of_error hfails
  | createKind kind name setup =>
      rw [on, block, run_createKind] at hfails ⊢
      exact run_create_snd_of_error hfails
  | other block => cases hdeclares

/-- The failure of a declaration. -/
def refusal? (call : Call α) (draft : Draft) : Option Failure :=
  match call.declares, (call.on draft).1 with
  | true, .error failure => some failure
  | true, .ok _ | false, _ => none

theorem refusal?_eq_some_iff {call : Call α} {draft : Draft} {failure : Failure} :
    call.refusal? draft = some failure ↔
      call.declares = true ∧ (call.on draft).1 = .error failure := by
  unfold refusal?
  cases call.declares <;> cases (call.on draft).1 <;> simp

end Call

/-- A block as the calls it makes; what it does next depends on how the last call ended, so it
may go on after a failure or stop. -/
inductive Program : Type 1 where
  | stop (result : Except Failure Unit)
  | perform {α : Type} (call : Call α) (next : Except Failure α → Program)

namespace Program

def block : Program → Block Unit
  | stop result => ExceptT.mk (pure result)
  | perform call next => ExceptT.mk do (next (← call.block.run)).block.run

def on (program : Program) (draft : Draft) : Except Failure Unit × Draft :=
  program.block.run.run draft

variable {α : Type} {call : Call α} {next : Except Failure α → Program} {program spared : Program}
  {draft : Draft}

theorem on_perform (call : Call α) (next : Except Failure α → Program) (draft : Draft) :
    (perform call next).on draft = (next (call.on draft).1).on (call.on draft).2 := rfl

/-- The second program is the first one without some of the declarations that fail in it. -/
inductive Drops : Draft → Program → Program → Prop where
  | stop {draft : Draft} {result : Except Failure Unit} : Drops draft (.stop result) (.stop result)
  | keep {draft : Draft} {α : Type} {call : Call α} {next rest : Except Failure α → Program}
      (hnext : Drops (call.on draft).2 (next (call.on draft).1) (rest (call.on draft).1)) :
      Drops draft (.perform call next) (.perform call rest)
  | drop {draft : Draft} {α : Type} {call : Call α} {next : Except Failure α → Program}
      {spared : Program} {failure : Failure} (hdeclares : call.declares = true)
      (hfails : (call.on draft).1 = .error failure)
      (hnext : Drops draft (next (.error failure)) spared) :
      Drops draft (.perform call next) spared

theorem Drops.on_eq (hdrops : Drops draft program spared) : spared.on draft = program.on draft := by
  induction hdrops with
  | stop => rfl
  | keep _ ih => rw [on_perform, on_perform, ih]
  | drop hdeclares hfails _ ih =>
      rw [on_perform, hfails, Call.on_snd_of_declares hdeclares hfails]
      exact ih

/-- The program without any declaration that fails in it. -/
def pruned (draft : Draft) : Program → Program
  | stop result => stop result
  | perform call next =>
      match call.refusal? draft with
      | some failure => (next (.error failure)).pruned draft
      | none => perform call fun result => (next result).pruned (call.on draft).2

theorem drops_pruned (program : Program) (draft : Draft) :
    Drops draft program (program.pruned draft) := by
  induction program generalizing draft with
  | stop result => exact .stop
  | perform call next ih =>
      rw [pruned]
      split
      · rename_i failure hrefusal
        obtain ⟨hdeclares, hfails⟩ := Call.refusal?_eq_some_iff.mp hrefusal
        exact .drop hdeclares hfails (ih _ draft)
      · exact .keep (ih _ _)

theorem configure_eq_of_drops (hdrops : Drops draft program spared) :
    draft.configure spared.block = draft.configure program.block := by
  have hrun : spared.block.run.run draft = program.block.run.run draft := hdrops.on_eq
  rw [Draft.configure, Draft.configure, hrun]

end Program

/-- A task is declared the same way whether its kind is known beforehand or not: the program
that configures it runs once on the blank task if the kind is not abstract and the name is free,
and otherwise nothing is done.  What fails leaves the draft as it was, so a block that goes on
after some of its declarations failed gives the same script, or the same report, without them. -/
theorem declarations_leave_no_trace :
    (∀ (m : Type → Type) [Monad m] [LawfulMonad m] (tasks : TaskList) (kind : TaskKind)
      (name : String) (configure : Task → m (Except Failure Task)),
      tasks.createKindM kind name configure = tasks.createM (.builtIn kind) name configure ∧
      (kind.isAbstract = true →
        tasks.createKindM kind name configure = pure (.error (.abstractKind kind), tasks)) ∧
      (kind.isAbstract = false → name ∈ tasks.registry.keys →
        tasks.createKindM kind name configure = pure (.error (.nameTaken name), tasks)) ∧
      (kind.isAbstract = false → name ∉ tasks.registry.keys →
        ∃ body, kind.blank? = some body ∧
          tasks.createKindM kind name configure = tasks.configureM { body, name } configure)) ∧
    (∀ (kind : TaskKind) (name : String) (setup : Setup) (draft : Draft),
      (createKind kind name setup).run.run draft =
        (create (.builtIn kind) name setup).run.run draft) ∧
    (∀ (α : Type) (call : Call α), call.declares = true → ∀ draft failure,
      (call.on draft).1 = .error failure → (call.on draft).2 = draft) ∧
    ∀ (program : Program) (draft : Draft),
      program.Drops draft (program.pruned draft) ∧
      ∀ spared, program.Drops draft spared → ∀ comments,
        (draft.configure spared.block).text comments =
          (draft.configure program.block).text comments := by
  refine ⟨?_, run_createKind, fun _ _ hdeclares _ _ => Call.on_snd_of_declares hdeclares, ?_⟩
  · intro m _ _ tasks kind name configure
    refine ⟨tasks.createKindM_eq_createM name configure kind, fun habstract => ?_,
      fun hconcrete htaken => ?_, fun hconcrete hfree => ?_⟩
    · rw [TaskList.createKindM_eq, TaskKind.blank?_eq_none_iff.mpr habstract]
    · obtain ⟨body, hblank⟩ := TaskKind.exists_blank?_eq_some hconcrete
      simp only [TaskList.createKindM_eq, hblank, if_pos htaken]
    · obtain ⟨body, hblank⟩ := TaskKind.exists_blank?_eq_some hconcrete
      refine ⟨body, hblank, ?_⟩
      simp only [TaskList.createKindM_eq, hblank, if_neg hfree]
  · intro program draft
    refine ⟨program.drops_pruned draft, fun spared hdrops comments => ?_⟩
    rw [Program.configure_eq_of_drops hdrops]

/-- Declares a variable twice and three tasks, of which one is of an abstract kind and one takes
a name that is taken, and goes on whatever happens. -/
def careless : Program :=
  .perform (.declare "x") fun _ =>
    .perform (.declare "x") fun _ =>
      .perform (.create (.builtIn .empty) "task" (pure ())) fun _ =>
        .perform (.createKind .base "other" (pure ())) fun _ =>
          .perform (.create (.builtIn .enableEagerExecution) "task" (pure ())) fun _ =>
            .perform (.create (.builtIn .enableEagerExecution) "eager" (pure ())) fun _ =>
              .stop (.ok ())

/-- The declarations of the careless program that succeed. -/
def careful : Program :=
  .perform (.declare "x") fun _ =>
    .perform (.create (.builtIn .empty) "task" (pure ())) fun _ =>
      .perform (.create (.builtIn .enableEagerExecution) "eager" (pure ())) fun _ =>
        .stop (.ok ())

/-- Notes the name of the task that it configures, and renames it. -/
def noteAndRename (task : Task) : StateM (List String) (Except Failure Task) := do
  modify (task.name :: ·)
  return .ok { task with name := "renamed" }

theorem declarations_leave_no_trace_careless :
    let draft := (Session.start {} { acceptsPath := fun _ => true }).1
    Program.Drops draft careless careful ∧
      (draft.configure careful.block).text false = (draft.configure careless.block).text false ∧
      TaskKind.empty.isAbstract = false ∧ "task" ∉ draft.tasks.registry.keys ∧
      ((draft.tasks.createKindM .empty "task" noteAndRename).run []).2 = ["task"] ∧
      TaskKind.base.isAbstract = true ∧
      ((draft.tasks.createKindM .base "task" noteAndRename).run []).2 = [] := by
  intro draft
  obtain ⟨hpaths, _, _, hblocks⟩ := declarations_leave_no_trace
  have hdrops : Program.Drops draft careless careful :=
    .keep (.drop rfl rfl (.keep (.drop rfl rfl (.drop rfl rfl (.keep .stop)))))
  have hfree : "task" ∉ draft.tasks.registry.keys := List.not_mem_nil
  obtain ⟨_, _, _, hruns⟩ :=
    hpaths (StateM (List String)) draft.tasks .empty "task" noteAndRename
  obtain ⟨_, hskips, _, _⟩ :=
    hpaths (StateM (List String)) draft.tasks .base "task" noteAndRename
  obtain ⟨body, _, hconfigured⟩ := hruns rfl hfree
  refine ⟨hdrops, (hblocks careless draft).2 careful hdrops false, rfl, hfree, ?_, rfl, ?_⟩
  · rw [hconfigured]
    rfl
  · rw [hskips rfl]
    rfl

end TaskScript.Block
