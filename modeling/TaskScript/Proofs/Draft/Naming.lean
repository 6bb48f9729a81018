/-
Generated names over any run of requests for them.  A request draws names until one is not taken
in its draft; drafts that share one supply never get the same name twice, though each knows its
own names only.
-/
import Mathlib.Data.List.Nodup
import TaskScript.Proofs.Draft.Run
import TaskScript.Proofs.Naming.FreeNumber

namespace TaskScript

namespace Block

/-- The loop that draws names until an attempt with one of them succeeds: the names it draws,
and how it ends. -/
inductive Retries {α : Type} (attempt : String → Block α) :
    Draft → List String → α → Draft → Prop where
  | succeeds {draft drawn next : Draft} {name : String} {value : α}
      (hdraw : drawName.run.run draft = (.ok name, drawn))
      (hattempt : (attempt name).run.run drawn = (.ok value, next)) :
      Retries attempt draft [name] value next
  | fails {draft drawn failed next : Draft} {name : String} {names : List String}
      {failure : Failure} {value : α}
      (hdraw : drawName.run.run draft = (.ok name, drawn))
      (hattempt : (attempt name).run.run drawn = (.error failure, failed))
      (hretries : Retries attempt failed names value next) :
      Retries attempt draft (name :: names) value next

/-- If an attempt with a taken name fails without a trace, then the loop draws names up to the
first one that is free, at most one more than are taken. -/
theorem exists_retries {α : Type} {attempt : String → Block α} {taken : List String}
    {draft next : Draft} {value : α}
    (hfails : ∀ name ∈ taken, ∀ names, ∃ failure,
      (attempt name).run.run { draft with names } = (.error failure, { draft with names }))
    (hends : (attempt (draft.names.drawFree taken).1).run.run
      { draft with names := (draft.names.drawFree taken).2 } = (.ok value, next)) :
    ∃ count ≤ taken.length + 1,
      (draft.names.drawMany count).2 = (draft.names.drawFree taken).2 ∧
      Retries attempt draft (draft.names.drawMany count).1 value next := by
  have hbound := NameSupply.freeNumber_le taken draft.names.next
  obtain ⟨passed, hpassed⟩ :=
    Nat.exists_eq_add_of_le (NameSupply.le_freeNumber taken draft.names.next)
  refine ⟨passed + 1, by omega, by rw [NameSupply.drawMany_snd, NameSupply.drawFree, hpassed]; rfl,
    ?_⟩
  clear hbound
  -- One round passes one number; what it changes of the draft is the supply only.
  induction passed generalizing draft with
  | zero =>
      rw [NameSupply.drawFree, hpassed] at hends
      exact .succeeds (run_drawName draft) hends
  | succ passed ih =>
      have htaken : NameSupply.nameAt draft.names.next ∈ taken :=
        NameSupply.nameAt_mem_of_lt_freeNumber (Nat.le_refl _) (by omega)
      have hskip := NameSupply.freeNumber_succ htaken
      obtain ⟨failure, hfailure⟩ := hfails _ htaken draft.names.draw.2
      refine .fails (run_drawName draft) hfailure (ih hfails ?_ ?_)
      · rw [NameSupply.drawFree] at hends ⊢
        rw [NameSupply.draw, hskip]
        exact hends
      · simp only [NameSupply.draw, hskip, hpassed]
        omega

/-- The loop of an attempt ends with the name of the least number, from the counter on, that is
not in the registry, and leaves the counter right after that number.  It draws at most one name
more than the registry has, if the registry is in step with its index. -/
structure Settles {α β : Type} (attempt : String → Block α) (registry : Registry β) (draft : Draft)
    (number : Nat) (value : α) (next : Draft) : Prop where
  least : IsLeast {k | draft.names.next ≤ k ∧ NameSupply.nameAt k ∉ registry.keys} number
  retries : ∃ count ≤ registry.keys.length + 1, (registry.InStep → count ≤ registry.size + 1) ∧
    (draft.names.drawMany count).2 = ⟨number + 1⟩ ∧
    Retries attempt draft (draft.names.drawMany count).1 value next
  names : next.names = ⟨number + 1⟩

theorem names_run_declare (name : String) (draft : Draft) :
    ((declare name).run.run draft).2.names = draft.names := by
  rw [run_declare]
  split <;> rfl

theorem names_run_create (type : TaskType) (name : String) (setup : Setup) (draft : Draft) :
    ((create type name setup).run.run draft).2.names = draft.names := by
  rw [run_create, run_store]

/-- Whether a name is free for a task. -/
def vacant (name : String) : Block String := do
  if (← get).tasks.registry.contains name then throw (.nameTaken name) else return name

theorem run_vacant (name : String) (draft : Draft) :
    (vacant name).run.run draft =
      (if name ∈ draft.tasks.registry.keys then .error (.nameTaken name) else .ok name, draft) := by
  rw [vacant, run_get_bind]
  simp only [Registry.contains_eq_true_iff]
  split <;> rfl

theorem Settles.of_freeNumber {α β : Type} {attempt : String → Block α} {registry : Registry β}
    {draft next : Draft} {number : Nat} {value : α}
    (hnumber : NameSupply.freeNumber registry.keys draft.names.next = number)
    (hfails : ∀ name ∈ registry.keys, ∀ names, ∃ failure,
      (attempt name).run.run { draft with names } = (.error failure, { draft with names }))
    (hends : NameSupply.nameAt number ∉ registry.keys →
      (attempt (NameSupply.nameAt number)).run.run { draft with names := ⟨number + 1⟩ } =
        (.ok value, next))
    (hnames : next.names = ⟨number + 1⟩) : Settles attempt registry draft number value next := by
  subst hnumber
  have hfree := NameSupply.nameAt_freeNumber_notMem registry.keys draft.names.next
  refine ⟨NameSupply.isLeast_freeNumber _ _, ?_, hnames⟩
  obtain ⟨count, hcount, hretries⟩ := exists_retries hfails (hends hfree)
  exact ⟨count, hcount, fun hstep => hstep.length_keys ▸ hcount, hretries⟩

theorem settles_declare (draft : Draft) {number : Nat}
    (hnumber : NameSupply.freeNumber draft.declared.keys draft.names.next = number) :
    Settles declare draft.declared draft number
      (draft.env.variableNamed (NameSupply.nameAt number))
      { draft with
        names := ⟨number + 1⟩
        declared :=
          draft.declared.store (draft.env.variableNamed (NameSupply.nameAt number)) } := by
  apply Settles.of_freeNumber hnumber
  · intro name htaken names
    exact ⟨.nameTaken name, by rw [run_declare, if_pos htaken]⟩
  · intro hfree
    rw [run_declare, if_neg hfree]
  · rfl

theorem settles_vacant (draft : Draft) {number : Nat}
    (hnumber : NameSupply.freeNumber draft.tasks.registry.keys draft.names.next = number) :
    Settles vacant draft.tasks.registry draft number (NameSupply.nameAt number)
      { draft with names := ⟨number + 1⟩ } := by
  apply Settles.of_freeNumber hnumber
  · intro name htaken names
    exact ⟨.nameTaken name, by rw [run_vacant, if_pos htaken]⟩
  · intro hfree
    rw [run_vacant, if_neg hfree]
  · rfl

/-- What a block asks for without giving a name. -/
inductive Request where
  | declareUnique
  | createUnnamed (type : TaskType) (setup : Setup)
  | createOnce (type : TaskType) (setup : Setup)

namespace Request

def program : Request → Block Unit
  | declareUnique => do
      let _ ← Block.declareUnique
  | createUnnamed type setup => do
      let _ ← Block.createUnnamed type setup
  | createOnce type setup => do
      let _ ← Block.createOnce type setup

def on (request : Request) (draft : Draft) : Except Failure Unit × Draft :=
  request.program.run.run draft

/-- The number of the name that is drawn to stay. -/
def number? (draft : Draft) : Request → Option Nat
  | declareUnique => some (NameSupply.freeNumber draft.declared.keys draft.names.next)
  | createUnnamed .. => some (NameSupply.freeNumber draft.tasks.registry.keys draft.names.next)
  | createOnce type _ =>
      match draft.tasks.firstOfKind? type.declaredKind with
      | some _ => none
      | none => some (NameSupply.freeNumber draft.tasks.registry.keys draft.names.next)

variable {draft : Draft} {number : Nat}

theorem le_of_number?_eq_some {request : Request}
    (hnumber : request.number? draft = some number) : draft.names.next ≤ number := by
  cases request with
  | declareUnique | createUnnamed =>
      obtain rfl := Option.some.inj hnumber
      exact NameSupply.le_freeNumber _ _
  | createOnce type setup =>
      simp only [number?] at hnumber
      split at hnumber
      · cases hnumber
      · obtain rfl := Option.some.inj hnumber
        exact NameSupply.le_freeNumber _ _

theorem run_declareUnique_eq_ok (draft : Draft) :
    ∃ number next, declareUnique.number? draft = some number ∧
      Settles declare draft.declared draft number
        (draft.env.variableNamed (NameSupply.nameAt number)) next ∧
      Block.declareUnique.run.run draft =
        (.ok (draft.env.variableNamed (NameSupply.nameAt number)), next) := by
  refine ⟨_, _, rfl, settles_declare draft rfl, ?_⟩
  rw [run_declareUnique, run_declare]
  exact if_neg (NameSupply.nameAt_freeNumber_notMem _ _)

/-- A request for a task settles for a name and then declares the task under it, which nothing
but the configuration of the task can keep from succeeding. -/
structure Creates (draft : Draft) (type : TaskType) (setup : Setup) (number : Nat) : Prop where
  settles : Settles vacant draft.tasks.registry draft number (NameSupply.nameAt number)
    { draft with names := ⟨number + 1⟩ }
  run_eq : (Block.createUnnamed type setup).run.run draft =
    (create type (NameSupply.nameAt number) setup).run.run { draft with names := ⟨number + 1⟩ }
  accepted : ((Block.createUnnamed type setup).run.run draft).1 ≠
    .error (.nameTaken (NameSupply.nameAt number))
  stored : ∀ body task, type.blank? = some body →
    setup.apply { body, name := NameSupply.nameAt number } = .ok task →
    task.name = NameSupply.nameAt number →
    (Block.createUnnamed type setup).run.run draft =
      (.ok (draft.tasks.id draft.tasks.size),
        { draft with names := ⟨number + 1⟩, tasks := draft.tasks.store task })

theorem exists_creates (draft : Draft) (type : TaskType) (setup : Setup) :
    ∃ number, (createUnnamed type setup).number? draft = some number ∧
      Creates draft type setup number := by
  have hfree := NameSupply.nameAt_freeNumber_notMem draft.tasks.registry.keys draft.names.next
  have hrun := run_createUnnamed type setup draft
  rw [NameSupply.drawFree] at hrun
  obtain ⟨number, hnumber⟩ :
      ∃ number, NameSupply.freeNumber draft.tasks.registry.keys draft.names.next = number :=
    ⟨_, rfl⟩
  rw [hnumber] at hfree hrun
  refine ⟨number, congrArg some hnumber, settles_vacant draft hnumber, hrun, fun htaken => ?_,
    fun body task hblank htask hname => ?_⟩
  · rw [hrun, run_create, run_store] at htaken
    cases draft.tasks.declares type (NameSupply.nameAt number) setup with
    | stores _ _ _ _ hcreate =>
        rw [hcreate] at htaken
        cases htaken
    | fails hcreate haccepted =>
        rw [hcreate] at htaken
        exact haccepted hfree (Except.error.inj htaken)
  · have hcreate := TaskList.create_eq_ok hblank hfree htask (hname ▸ hfree)
    rw [hrun, run_create, run_store]
    simp only [hcreate]

theorem keepsStep_program (request : Request) : request.program.KeepsStep := by
  cases request with
  | declareUnique => exact keepsStep_declareUnique.bind fun _ => keepsStep_pure ()
  | createUnnamed type setup =>
      exact (keepsStep_createUnnamed type setup).bind fun _ => keepsStep_pure ()
  | createOnce type setup =>
      exact (keepsStep_createOnce type setup).bind fun _ => keepsStep_pure ()

/-- The supply after a request, which goes on after the name that was drawn to stay. -/
theorem names_on (request : Request) (draft : Draft) :
    (request.on draft).2.names =
      ((request.number? draft).map fun number => ⟨number + 1⟩).getD draft.names := by
  cases request with
  | declareUnique =>
      rw [on, program, run_map (fun _ => ()), run_declareUnique, names_run_declare]
      rfl
  | createUnnamed type setup =>
      rw [on, program, run_map (fun _ => ()), run_createUnnamed, names_run_create]
      rfl
  | createOnce type setup =>
      rw [on, program, run_map (fun _ => ()), run_createOnce, number?]
      cases draft.tasks.firstOfKind? type.declaredKind with
      | some id => rfl
      | none =>
          rw [run_createUnnamed, names_run_create]
          rfl

end Request

end Block

end TaskScript
