/-
Asking for the one task of a kind.  If the draft has a task of the kind, the first one is given
out and nothing else happens; otherwise one is made.  So as long as tasks of the kind come about in
no other way there is at most one, and if it remains of the kind it is the one that is always given
out.
-/
import TaskScript.Proofs.Draft.Lifetime
import TaskScript.Proofs.Task.Origin

namespace TaskScript

namespace Draft

variable {m : Type → Type} [Monad m]

/-- Makes a task under the next generated name that is free, configured by a program that may do
anything else besides. -/
def createUnnamedM (draft : Draft) (type : TaskType) (configure : Task → m (Except Failure Task)) :
    m (Except Failure TaskId × Draft) := do
  let (name, names) := draft.names.drawFree draft.tasks.registry.keys
  let (result, tasks) ← draft.tasks.createM type name configure
  return (result, { draft with names, tasks })

/-- Finds the first task of the type's kind, or makes one; and tells whether it is new. -/
def createOnceM (draft : Draft) (type : TaskType) (configure : Task → m (Except Failure Task)) :
    m (Except Failure (TaskId × Bool) × Draft) :=
  match draft.tasks.firstOfKind? type.declaredKind with
  | some id => return (.ok (id, false), draft)
  | none => do
      let (result, next) ← draft.createUnnamedM type configure
      return (result.map (·, true), next)

/-- A program that does nothing but configure the task makes it as a block does. -/
theorem run_createUnnamedM (draft : Draft) (type : TaskType) (setup : Setup) :
    Id.run (draft.createUnnamedM type fun task => pure (setup.apply task)) =
      (Block.createUnnamed type setup).run.run draft := by
  rw [Block.run_createUnnamed, Block.run_create, Block.run_store, TaskList.create,
    createUnnamedM]
  rfl

theorem run_createOnceM (draft : Draft) (type : TaskType) (setup : Setup) :
    Id.run (draft.createOnceM type fun task => pure (setup.apply task)) =
      (Block.createOnce type setup).run.run draft := by
  rw [Block.run_createOnce, ← run_createUnnamedM, createOnceM]
  cases draft.tasks.firstOfKind? type.declaredKind <;> rfl

end Draft

namespace Desk

variable {desk : Desk} {index : Nat} {kind : TaskKind} {id : TaskId}

/-- In the draft the identifier leads to a task of the kind. -/
def Offers (desk : Desk) (index : Nat) (kind : TaskKind) (id : TaskId) : Prop :=
  ∃ tasks, desk.tasks? index = some tasks ∧ tasks.Offers kind id

/-- At most one task of the draft is of the kind. -/
def Sole (desk : Desk) (index : Nat) (kind : TaskKind) : Prop :=
  ∀ id other, desk.Offers index kind id → desk.Offers index kind other → id = other

theorem offers_iff : desk.Offers index kind id ↔ ∃ task, desk.Leads index id task ∧
    task.kind = kind := by
  simp only [Offers, tasks?, Option.map_eq_some_iff, TaskList.Offers, Leads]
  constructor
  · rintro ⟨_, ⟨draft, hdraft, rfl⟩, task, hget, hkind⟩
    exact ⟨task, ⟨draft, hdraft, hget⟩, hkind⟩
  · rintro ⟨task, ⟨draft, hdraft, hget⟩, hkind⟩
    exact ⟨_, ⟨draft, hdraft, rfl⟩, task, hget, hkind⟩

theorem sole_iff {tasks : TaskList} (htasks : desk.tasks? index = some tasks) :
    desk.Sole index kind ↔ tasks.Sole kind := by
  simp [Sole, TaskList.Sole, Offers, htasks]

namespace Event

/-- The event asks for the one task of the kind in the draft. -/
def Asks (index : Nat) (kind : TaskKind) : Event → Prop
  | act target (.createOnce type _) => target = index ∧ type.declaredKind = kind
  | act .. | start _ | finish _ | adjust .. => False

/-- The event brings about no task of the kind in the draft. -/
def Spares (index : Nat) (kind : TaskKind) : Event → Prop
  | act target action => target = index → action.Spares kind
  | start _ | finish _ | adjust .. => True

/-- The event leaves every task of the draft what it was created as, and if it asks for the one
task of the kind, then for one that is built in. -/
def Typed (index : Nat) (kind : TaskKind) : Event → Prop
  | act target action => target = index → action.setup.Typed ∧
      ∀ type setup, action = .createOnce type setup → type.declaredKind = kind →
        type = .builtIn kind
  | start _ | finish _ | adjust .. => True

variable {event : Event}

theorem Asks.exists_eq (hasks : event.Asks index kind) :
    ∃ type setup, event = .act index (.createOnce type setup) ∧ type.declaredKind = kind := by
  cases event with
  | act target action =>
      cases action with
      | createOnce type setup =>
          obtain ⟨rfl, hkind⟩ := hasks
          exact ⟨type, setup, rfl, hkind⟩
      | create | createKind | createUnnamed | change => cases hasks
  | start | finish | adjust => cases hasks

end Event

/-- A task was in the draft before the event, or the event made it. -/
theorem origin_of_leads {event : Event} {task : Task}
    (hleads : (desk.next event).Leads index id task) :
    (∃ old, desk.Leads index id old ∧ task = event.changed index id old) ∨
      ∃ action, event = .act index action ∧ action.Makes task := by
  obtain ⟨draft, hdraft, hget⟩ := hleads
  cases hbefore : desk.drafts[index]? with
  | some old =>
      rw [getElem?_drafts_next event hbefore] at hdraft
      obtain rfl := Option.some.inj hdraft
      cases event with
      | start | finish => exact .inl ⟨task, ⟨old, hbefore, hget⟩, rfl⟩
      | act target action =>
          simp only [Event.on] at hget
          split at hget
          · rename_i htarget
            subst htarget
            rcases (action.effect old).origin hget with ⟨was, hwas, rfl⟩ | ⟨_, hmade⟩
            · exact .inl ⟨was, ⟨old, hbefore, hwas⟩, by rw [Event.changed, if_pos rfl]⟩
            · exact .inr ⟨action, rfl, hmade⟩
          · rename_i hother
            exact .inl ⟨task, ⟨old, hbefore, hget⟩, by rw [Event.changed, if_neg hother]⟩
      | adjust target change =>
          simp only [Event.on] at hget
          split at hget <;> exact .inl ⟨task, ⟨old, hbefore, hget⟩, rfl⟩
  | none =>
      -- A draft that was started just now has no tasks yet.
      cases event with
      | start env =>
          rw [next, List.getElem?_append_right (List.getElem?_eq_none_iff.mp hbefore)] at hdraft
          obtain rfl := List.mem_singleton.mp (List.mem_of_getElem? hdraft)
          obtain ⟨_, hitem⟩ := TaskList.get?_eq_some_iff.mp hget
          cases hitem
      | finish | act | adjust => simp [next, List.getElem?_modify, hbefore] at hdraft

namespace Event

variable {event : Event} {task : Task}

theorem Spares.offers (hspares : event.Spares index kind)
    (hoffers : (desk.next event).Offers index kind id) : desk.Offers index kind id := by
  obtain ⟨task, hleads, hkind⟩ := offers_iff.mp hoffers
  rcases origin_of_leads hleads with ⟨old, hold, rfl⟩ | ⟨action, rfl, hmade⟩
  · refine offers_iff.mpr ⟨old, hold, ?_⟩
    by_contra hother
    cases event with
    | start | finish | adjust => exact hother hkind
    | act target action =>
        rw [changed] at hkind
        split at hkind
        · rename_i htarget
          exact (hspares htarget).changes id old hother hkind
        · exact hother hkind
  · exact absurd hkind ((hspares rfl).makes task hmade)

theorem Asks.sole_next (hasks : event.Asks index kind) (hsole : desk.Sole index kind) :
    (desk.next event).Sole index kind := by
  obtain ⟨type, setup, rfl, rfl⟩ := hasks.exists_eq
  cases hdraft : desk.drafts[index]? with
  | none =>
      intro id _ hid _
      obtain ⟨task, hleads, _⟩ := offers_iff.mp hid
      obtain ⟨draft, hnext, _⟩ := hleads
      simp [next, hdraft] at hnext
  | some draft =>
      have hnext := getElem?_drafts_next (.act index (.createOnce type setup)) hdraft
      rw [on, if_pos rfl] at hnext
      rw [sole_iff (by rw [tasks?, hdraft, Option.map_some])] at hsole
      rw [sole_iff (by rw [tasks?, hnext, Option.map_some])]
      exact Block.Action.sole_createOnce hsole

theorem Asks.changed_eq (hasks : event.Asks index kind) (id : TaskId) (task : Task) :
    event.changed index id task = task := by
  obtain ⟨type, setup, rfl, _⟩ := hasks.exists_eq
  exact if_pos rfl

theorem Typed.type_changed (htyped : event.Typed index kind) (id : TaskId) (task : Task) :
    (event.changed index id task).body.type = task.body.type := by
  cases event with
  | start | finish | adjust => rfl
  | act target action =>
      rw [changed]
      split
      · rename_i htarget
        exact action.type_changed (htyped htarget).1 id task
      · rfl

theorem Typed.type_of_makes (htyped : event.Typed index kind) (hasks : event.Asks index kind)
    {action : Block.Action} (haction : event = .act index action) (hmade : action.Makes task) :
    task.body.type = .builtIn kind := by
  obtain ⟨type, setup, hevent, hkind⟩ := hasks.exists_eq
  obtain ⟨_, rfl⟩ := Event.act.inj (haction.symm.trans hevent)
  subst haction
  obtain ⟨hsetup, hbuiltIn⟩ := htyped rfl
  rw [← Option.some.inj (hmade.created?_eq hsetup)]
  exact hbuiltIn type setup rfl hkind

end Event

/-- No event makes a task of the draft one of the kind but the calls for the one task of it. -/
def OnlyAsked (index : Nat) (kind : TaskKind) : Desk → List Event → Prop
  | _, [] => True
  | desk, event :: events =>
      (event.Asks index kind ∨
        ∀ id, (desk.next event).Offers index kind id → desk.Offers index kind id) ∧
      OnlyAsked index kind (desk.next event) events

/-- A task of the kind remains of it in the draft, and so does what is given out as the one task of
the kind. -/
def Lasting (index : Nat) (kind : TaskKind) : Desk → List Event → Prop
  | _, [] => True
  | desk, event :: events =>
      (∀ id, desk.Offers index kind id ∨
          event.Asks index kind ∧ desk.issued? event = some (index, id) →
        (desk.next event).Offers index kind id) ∧
      Lasting index kind (desk.next event) events

/-- One of the calls for the task of the kind gives out the identifier. -/
def Answers (desk : Desk) (index : Nat) (kind : TaskKind) (events : List Event) (id : TaskId) :
    Prop :=
  ∃ before event later, events = before ++ event :: later ∧ event.Asks index kind ∧
    (desk.after before).issued? event = some (index, id)

section Run

variable {events : List Event}

theorem onlyAsked_of_spares (hevents : ∀ event ∈ events, event.Asks index kind ∨
    event.Spares index kind) (desk : Desk) : OnlyAsked index kind desk events := by
  induction events generalizing desk with
  | nil => exact trivial
  | cons event events ih =>
      obtain ⟨hevent, hevents⟩ := List.forall_mem_cons.mp hevents
      exact ⟨hevent.imp_right fun hspares _ => hspares.offers, ih hevents _⟩

theorem OnlyAsked.sole_after (honly : OnlyAsked index kind desk events)
    (hsole : desk.Sole index kind) : (desk.after events).Sole index kind := by
  induction events generalizing desk with
  | nil => exact hsole
  | cons event events ih =>
      obtain ⟨hasks | hkept, hrest⟩ := honly
      · exact ih hrest (hasks.sole_next hsole)
      · exact ih hrest fun id other hid hother => hsole id other (hkept id hid) (hkept other hother)

theorem OnlyAsked.left {before later : List Event}
    (honly : OnlyAsked index kind desk (before ++ later)) : OnlyAsked index kind desk before := by
  induction before generalizing desk with
  | nil => exact trivial
  | cons event before ih => exact ⟨honly.1, ih honly.2⟩

theorem Lasting.offers_after (hlasting : Lasting index kind desk events)
    (hoffers : desk.Offers index kind id) : (desk.after events).Offers index kind id := by
  induction events generalizing desk with
  | nil => exact hoffers
  | cons event events ih => exact ih hlasting.2 (hlasting.1 id (.inl hoffers))

theorem Lasting.right {before later : List Event}
    (hlasting : Lasting index kind desk (before ++ later)) :
    Lasting index kind (desk.after before) later := by
  induction before generalizing desk with
  | nil => exact hlasting
  | cons event before ih => exact ih hlasting.2

theorem Answers.offers_after (hanswers : desk.Answers index kind events id)
    (hlasting : Lasting index kind desk events) : (desk.after events).Offers index kind id := by
  obtain ⟨before, event, later, rfl, hasks, hissued⟩ := hanswers
  obtain ⟨hevent, hlater⟩ := hlasting.right
  have hoffers := hlater.offers_after (hevent id (.inr ⟨hasks, hissued⟩))
  simpa only [after, List.foldl_append, List.foldl_cons] using hoffers

/-- Every task of the kind in the draft is built in. -/
def BuiltIn (desk : Desk) (index : Nat) (kind : TaskKind) : Prop :=
  ∀ id task, desk.Leads index id task → task.kind = kind → task.body.type = .builtIn kind

theorem BuiltIn.next {event : Event} (hbuiltIn : desk.BuiltIn index kind)
    (htyped : event.Typed index kind)
    (honly : event.Asks index kind ∨
      ∀ id, (desk.next event).Offers index kind id → desk.Offers index kind id) :
    (desk.next event).BuiltIn index kind := by
  intro id task hleads hkind
  rcases honly with hasks | hkept
  · rcases origin_of_leads hleads with ⟨old, hold, rfl⟩ | ⟨action, haction, hmade⟩
    · rw [hasks.changed_eq] at hkind ⊢
      exact hbuiltIn id old hold hkind
    · exact htyped.type_of_makes hasks haction hmade
  · obtain ⟨old, hold, holdKind⟩ := offers_iff.mp (hkept id (offers_iff.mpr ⟨task, hleads, hkind⟩))
    obtain ⟨draft, hdraft, hget⟩ := hleads
    obtain ⟨_, hdraft', hget'⟩ := hold.next event
    obtain rfl := Option.some.inj (hdraft.symm.trans hdraft')
    obtain rfl := Option.some.inj (hget.symm.trans hget')
    rw [htyped.type_changed]
    exact hbuiltIn id old hold holdKind

theorem BuiltIn.offers_next {event : Event} (hbuiltIn : desk.BuiltIn index kind)
    (htyped : event.Typed index kind) (hoffers : desk.Offers index kind id) :
    (desk.next event).Offers index kind id := by
  obtain ⟨task, hleads, hkind⟩ := offers_iff.mp hoffers
  refine offers_iff.mpr ⟨_, hleads.next event, Body.kind_of_type ?_⟩
  rw [htyped.type_changed]
  exact hbuiltIn id task hleads hkind

theorem BuiltIn.offers_of_issued {event : Event} (hbuiltIn : desk.BuiltIn index kind)
    (htyped : event.Typed index kind) (hasks : event.Asks index kind)
    (hissued : desk.issued? event = some (index, id)) :
    (desk.next event).Offers index kind id := by
  obtain ⟨action, draft, rfl, hdraft, hresult⟩ := issued?_eq_some_iff.mp hissued
  obtain ⟨task, hget, hgives⟩ := (action.effect draft).exists_givesOut hresult
  rcases hgives with ⟨_, hmade⟩ | ⟨type, setup, rfl, hfirst, _⟩
  · have hleads : (desk.next (.act index action)).Leads index id task := by
      refine ⟨_, getElem?_drafts_next _ hdraft, ?_⟩
      rwa [Event.on, if_pos rfl]
    have htype := htyped.type_of_makes hasks rfl hmade
    exact offers_iff.mpr ⟨task, hleads, Body.kind_of_type htype⟩
  · obtain ⟨_, rfl⟩ := hasks
    have hoffers := (TaskList.earliest_of_firstOfKind? hfirst).offers
    exact hbuiltIn.offers_next htyped
      ⟨draft.tasks, by rw [tasks?, hdraft, Option.map_some], hoffers⟩

theorem OnlyAsked.lasting (honly : OnlyAsked index kind desk events)
    (htyped : ∀ event ∈ events, event.Typed index kind) (hbuiltIn : desk.BuiltIn index kind) :
    Lasting index kind desk events := by
  induction events generalizing desk with
  | nil => exact trivial
  | cons event events ih =>
      obtain ⟨hevent, hevents⟩ := List.forall_mem_cons.mp htyped
      refine ⟨?_, ih honly.2 hevents (hbuiltIn.next hevent honly.1)⟩
      rintro id (hoffers | ⟨hasks, hissued⟩)
      · exact hbuiltIn.offers_next hevent hoffers
      · exact hbuiltIn.offers_of_issued hevent hasks hissued

end Run

/-- A call for the one task of a kind gives out the first task of the kind, without running the
callback, drawing a name or changing anything, and otherwise makes one under a generated name.
Along any run of any drafts in which tasks of the kind come about in one draft through such calls
only, whether they fail or not, it never has more than one of them, and if they remain of the kind
all calls that give out an identifier give out the same one.  Tasks that are built in remain of
their kind. -/
theorem once_makes_one :
    (∀ (m : Type → Type) [Monad m] [LawfulMonad m] (draft : Draft) (type : TaskType)
      (configure : Task → m (Except Failure Task)),
      (∃ id, draft.tasks.Earliest type.declaredKind id ∧
        draft.createOnceM type configure = pure (.ok (id, false), draft)) ∨
      (∀ id, ¬ draft.tasks.Offers type.declaredKind id) ∧
        draft.createOnceM type configure =
          (fun (result, next) => (result.map (·, true), next)) <$>
            draft.createUnnamedM type configure) ∧
    (∀ (draft : Draft) (type : TaskType) (setup : Setup),
      (Block.createOnce type setup).run.run draft =
        Id.run (draft.createOnceM type fun task => pure (setup.apply task)) ∧
      (Block.createUnnamed type setup).run.run draft =
        Id.run (draft.createUnnamedM type fun task => pure (setup.apply task))) ∧
    ∀ (session : Session) (events : List Event) (index : Nat) (kind : TaskKind),
      OnlyAsked index kind ⟨session, []⟩ events →
      (∀ before later, events = before ++ later →
        ((Desk.mk session []).after before).Sole index kind) ∧
      (Lasting index kind ⟨session, []⟩ events → ∀ id other,
        (Desk.mk session []).Answers index kind events id →
        (Desk.mk session []).Answers index kind events other → id = other) ∧
      ((∀ event ∈ events, event.Typed index kind) →
        Lasting index kind ⟨session, []⟩ events) := by
  refine ⟨?_, ?_, ?_⟩
  · intro m _ _ draft type configure
    cases hfirst : draft.tasks.firstOfKind? type.declaredKind with
    | some id =>
        left
        refine ⟨id, TaskList.earliest_of_firstOfKind? hfirst, ?_⟩
        simp only [Draft.createOnceM, hfirst]
    | none =>
        right
        refine ⟨TaskList.not_offers_of_firstOfKind? hfirst, ?_⟩
        simp only [Draft.createOnceM, hfirst, map_eq_pure_bind]
  · intro draft type setup
    exact ⟨(draft.run_createOnceM type setup).symm, (draft.run_createUnnamedM type setup).symm⟩
  · intro session events index kind honly
    have hnone (id : TaskId) (task : Task) : ¬ (Desk.mk session []).Leads index id task := by
      rintro ⟨draft, hdraft, _⟩
      cases hdraft
    have hsole : (Desk.mk session []).Sole index kind := by
      intro id _ hid
      obtain ⟨task, hleads, _⟩ := offers_iff.mp hid
      exact absurd hleads (hnone id task)
    refine ⟨?_, ?_, ?_⟩
    · rintro before later rfl
      exact honly.left.sole_after hsole
    · intro hlasting id other hid hother
      exact honly.sole_after hsole id other (hid.offers_after hlasting)
        (hother.offers_after hlasting)
    · intro htyped
      exact honly.lasting htyped fun id task hleads => absurd hleads (hnone id task)

/-- A draft asks for a task that enables eager execution, at first in vain and then twice more, and
makes and changes tasks of other kinds in between. -/
def eagerCalls : List Event :=
  [.start { acceptsPath := fun _ => true },
    .act 0 (.createOnce (.builtIn .enableEagerExecution) (throw { cause := .other "not yet" })),
    .act 0 (.create (.builtIn .empty) "first" (pure ())),
    .act 0 (.createOnce (.builtIn .enableEagerExecution) (Setup.dependOn [⟨1, 0⟩])),
    .act 0 (.createUnnamed (.builtIn .train) (Setup.assign (.epochs 3))),
    .act 0 (.change ⟨1, 0⟩ (Setup.dependOn [⟨1, 2⟩])),
    .act 0 (.createOnce (.builtIn .enableEagerExecution) (throw { cause := .other "never run" }))]

theorem once_makes_one_after_failure :
    let desk := Desk.mk {} []
    OnlyAsked 0 .enableEagerExecution desk eagerCalls ∧
      (∀ event ∈ eagerCalls, event.Typed 0 .enableEagerExecution) ∧
      (desk.after eagerCalls).Sole 0 .enableEagerExecution ∧
      desk.Answers 0 .enableEagerExecution eagerCalls ⟨1, 1⟩ ∧
      (∀ id, desk.Answers 0 .enableEagerExecution eagerCalls id → id = ⟨1, 1⟩) ∧
      ((desk.after eagerCalls).tasks? 0).map (·.items.map Task.name) =
        some ["first", "var2", "var3"] := by
  have honly : OnlyAsked 0 .enableEagerExecution (Desk.mk {} []) eagerCalls := by
    apply onlyAsked_of_spares
    simp only [eagerCalls, List.forall_mem_cons]
    exact ⟨.inr trivial, .inl ⟨rfl, rfl⟩,
      .inr fun _ => Block.Action.spares_of_created? Setup.typed_pure rfl (by decide),
      .inl ⟨rfl, rfl⟩,
      .inr fun _ => Block.Action.spares_of_created? (Setup.typed_assign _) rfl (by decide),
      .inr fun _ => Block.Action.spares_dependOn .., .inl ⟨rfl, rfl⟩, List.forall_mem_nil _⟩
  have htyped : ∀ event ∈ eagerCalls, event.Typed 0 .enableEagerExecution := by
    have hbuiltIn (called : Setup) : ∀ type setup,
        Block.Action.createOnce (.builtIn .enableEagerExecution) called = .createOnce type setup →
        type.declaredKind = .enableEagerExecution → type = .builtIn .enableEagerExecution := by
      rintro _ _ ⟨rfl, rfl⟩ _
      rfl
    simp only [eagerCalls, List.forall_mem_cons]
    refine ⟨trivial, fun _ => ⟨Setup.typed_throw _, hbuiltIn _⟩, fun _ => ⟨Setup.typed_pure, ?_⟩,
      fun _ => ⟨Setup.typed_dependOn _, hbuiltIn _⟩, fun _ => ⟨Setup.typed_assign _, ?_⟩,
      fun _ => ⟨Setup.typed_dependOn _, ?_⟩, fun _ => ⟨Setup.typed_throw _, hbuiltIn _⟩,
      List.forall_mem_nil _⟩
    all_goals rintro _ _ ⟨⟩
  obtain ⟨hsole, hsame, hlasting⟩ := once_makes_one.2.2 {} eagerCalls 0 .enableEagerExecution honly
  have hanswer : (Desk.mk {} []).Answers 0 .enableEagerExecution eagerCalls ⟨1, 1⟩ :=
    ⟨eagerCalls.take 3, _, eagerCalls.drop 4, rfl, ⟨rfl, rfl⟩, rfl⟩
  refine ⟨honly, htyped, hsole eagerCalls [] (List.append_nil _).symm, hanswer, ?_, ?_⟩
  · intro id hid
    exact hsame (hlasting htyped) id ⟨1, 1⟩ hid hanswer
  · decide +kernel

end Desk

end TaskScript
