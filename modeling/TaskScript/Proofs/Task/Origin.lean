/-
Where the tasks of a kind come from.  Whatever an action does, a task that is there after it was
there before or was made by it, so what the action does to tasks of a kind can be said of these
two alone.
-/
import TaskScript.Proofs.Task.Identifier

namespace TaskScript

namespace TaskList

variable {tasks : TaskList} {kind : TaskKind} {id : TaskId}

/-- The identifier leads to a task of the kind. -/
def Offers (tasks : TaskList) (kind : TaskKind) (id : TaskId) : Prop :=
  ∃ task, tasks.get? id = some task ∧ task.kind = kind

/-- The identifier leads to the task of the kind that was stored first. -/
structure Earliest (tasks : TaskList) (kind : TaskKind) (id : TaskId) : Prop where
  offers : tasks.Offers kind id
  le : ∀ other, tasks.Offers kind other → id.index ≤ other.index

/-- At most one task is of the kind. -/
def Sole (tasks : TaskList) (kind : TaskKind) : Prop :=
  ∀ id other, tasks.Offers kind id → tasks.Offers kind other → id = other

theorem offers_iff : tasks.Offers kind id ↔
    id.owner = tasks.owner ∧ ∃ task, tasks.items[id.index]? = some task ∧ task.kind = kind := by
  simp only [Offers, get?_eq_some_iff, and_assoc, exists_and_left]

theorem earliest_of_firstOfKind? (hfirst : tasks.firstOfKind? kind = some id) :
    tasks.Earliest kind id := by
  obtain ⟨index, hindex, rfl⟩ := Option.map_eq_some_iff.mp hfirst
  obtain ⟨hlt, hkind, hbefore⟩ := List.findIdx?_eq_some_iff_getElem.mp hindex
  refine ⟨offers_iff.mpr ⟨rfl, _, List.getElem?_eq_getElem hlt, beq_iff_eq.mp hkind⟩, ?_⟩
  intro other hother
  obtain ⟨_, task, hitem, htask⟩ := offers_iff.mp hother
  by_contra hlater
  obtain ⟨_, rfl⟩ := List.getElem?_eq_some_iff.mp hitem
  exact hbefore other.index (Nat.lt_of_not_le hlater) (beq_iff_eq.mpr htask)

theorem not_offers_of_firstOfKind? (hnone : tasks.firstOfKind? kind = none) (id : TaskId) :
    ¬ tasks.Offers kind id := by
  intro hoffers
  obtain ⟨_, task, hitem, htask⟩ := offers_iff.mp hoffers
  have hother := List.findIdx?_eq_none_iff.mp (Option.map_eq_none_iff.mp hnone) task
    (List.mem_of_getElem? hitem)
  exact Bool.false_ne_true (hother.symm.trans (beq_iff_eq.mpr htask))

theorem get?_of_store {task other : Task} (hget : (tasks.store task).get? id = some other) :
    tasks.get? id = some other ∨ id = tasks.id tasks.size ∧ other = task := by
  obtain ⟨howner, hitem⟩ := get?_eq_some_iff.mp hget
  rw [items_store] at hitem
  by_cases hlt : id.index < tasks.items.length
  · rw [List.getElem?_append_left hlt] at hitem
    exact .inl (get?_eq_some_iff.mpr ⟨howner, hitem⟩)
  · have hbound := (List.getElem?_eq_some_iff.mp hitem).1
    rw [List.length_append, List.length_singleton] at hbound
    have hindex : id.index = tasks.items.length := by omega
    rw [hindex, List.getElem?_concat_length] at hitem
    rw [length_items] at hindex
    exact .inr ⟨(TaskId.mk.injEq ..).mpr ⟨howner, hindex⟩, (Option.some.inj hitem).symm⟩

theorem get?_of_modify {target : TaskId} {change : Task → Task} {task : Task}
    (htarget : tasks.owns target = true) (hget : (tasks.modify target change).get? id = some task) :
    ∃ old, tasks.get? id = some old ∧ task = if target = id then change old else old := by
  obtain ⟨howner, hitem⟩ := get?_eq_some_iff.mp hget
  rw [owner_modify] at howner
  rw [items_modify htarget, List.getElem?_modify] at hitem
  obtain ⟨old, hold, _⟩ := Option.map_eq_some_iff.mp hitem
  have hfound : tasks.get? id = some old := get?_eq_some_iff.mpr ⟨howner, hold⟩
  exact ⟨old, hfound, Option.some.inj (hget.symm.trans (get?_modify htarget change hfound))⟩

end TaskList

theorem Body.kind_of_type {body : Body} {kind : TaskKind} (htype : body.type = .builtIn kind) :
    body.kind = kind := by
  cases body <;> cases htype <;> rfl

theorem TaskType.type_of_blank? {type : TaskType} {body : Body} (hblank : type.blank? = some body) :
    body.type = type := by
  cases type with
  | builtIn kind => cases kind <;> cases hblank <;> rfl
  | custom kind =>
      rw [blank?] at hblank
      split at hblank
      · cases hblank
      · cases hblank
        rfl

namespace Setup

variable {setup : Setup}

/-- The program leaves a task what it was created as, as any does that is written for tasks of one
type. -/
def Typed (setup : Setup) : Prop := ∀ task, (setup.on task).1.body.type = task.body.type

theorem typed_pure : Typed (pure ()) := fun _ => rfl

theorem typed_throw (failure : Failure) : Typed (throw failure) := fun _ => rfl

theorem typed_dependOn (ids : List TaskId) : Typed (dependOn ids) := fun _ => rfl

theorem on_get_bind (task : Task) (next : Task → Setup) :
    on (get >>= next) task = (next task).on task := rfl

theorem typed_assign (assignment : Assignment) : Typed (assign assignment) := by
  intro task
  have hbody : ((assign assignment).on task).1.body = (task.body.assign assignment).1 := by
    rw [assign, on_get_bind]
    rcases task.body.assign assignment with ⟨body, error | _⟩ <;> rfl
  rw [hbody]
  exact Body.type_assign assignment task.body

theorem on_of_apply {blank task : Task} (happly : setup.apply blank = .ok task) :
    (setup.on blank).1 = task := by
  unfold apply at happly
  rcases hon : setup.on blank with ⟨changed, failure | _⟩
  · simp [hon] at happly
  · simpa [hon] using happly

theorem Typed.type_eq {blank task : Task} (htyped : setup.Typed)
    (happly : setup.apply blank = .ok task) : task.body.type = blank.body.type := by
  rw [← on_of_apply happly]
  exact htyped blank

end Setup

namespace Block.Action

variable {tasks next : TaskList} {action : Action} {kind : TaskKind} {id : TaskId} {task : Task}

/-- The program that configures the task of the action. -/
def setup : Action → Setup
  | create _ _ setup | createKind _ _ setup | createUnnamed _ setup | createOnce _ setup
  | change _ setup => setup

/-- The type that the action makes a task of. -/
def created? : Action → Option TaskType
  | create type _ _ | createUnnamed type _ | createOnce type _ => some type
  | createKind kind _ _ => some (.builtIn kind)
  | change .. => none

theorem Makes.created?_eq (hmade : action.Makes task) (htyped : action.setup.Typed) :
    action.created? = some task.body.type := by
  cases action with
  | create type name setup =>
      obtain ⟨body, hblank, happly⟩ := hmade
      rw [created?, htyped.type_eq happly, TaskType.type_of_blank? hblank]
  | createKind kind name setup =>
      obtain ⟨body, hblank, happly⟩ := hmade
      have htype : body.type = .builtIn kind := TaskType.type_of_blank? hblank
      rw [created?, htyped.type_eq happly, htype]
  | createUnnamed type setup | createOnce type setup =>
      obtain ⟨name, body, hblank, happly⟩ := hmade
      rw [created?, htyped.type_eq happly, TaskType.type_of_blank? hblank]
  | change => cases hmade

/-- A task was there before the action, as it was or to be changed, or the action made it. -/
theorem Effect.origin {result : Except Failure (Option TaskId)}
    (heffect : Effect tasks action result next) (hget : next.get? id = some task) :
    (∃ old, tasks.get? id = some old ∧ task = action.changed id old) ∨
      id = tasks.id tasks.size ∧ action.Makes task := by
  cases heffect with
  | stores hmade _ =>
      rcases TaskList.get?_of_store hget with hold | ⟨rfl, rfl⟩
      · exact .inl ⟨task, hold, (changed_of_ne_change hmade.ne_change task).symm⟩
      · exact .inr ⟨rfl, hmade⟩
  | finds => exact .inl ⟨task, hget, rfl⟩
  | @changes target setup other htarget =>
      have howns : tasks.owns target = true := (TaskList.resolves_of_get? htarget).owns
      obtain ⟨old, hold, rfl⟩ := TaskList.get?_of_modify howns hget
      refine .inl ⟨old, hold, ?_⟩
      rw [changed]
      split
      · rename_i hsame
        subst hsame
        rw [Option.some.inj (htarget.symm.trans hold)]
      · rfl
  | @misses target setup hmissed =>
      have hne : target ≠ id := by
        rintro rfl
        cases hmissed.symm.trans hget
      exact .inl ⟨task, hget, by rw [changed, if_neg hne]⟩
  | fails hcreates => exact .inl ⟨task, hget, (changed_of_ne_change hcreates task).symm⟩

/-- A call for the one task of a kind leaves at most one. -/
theorem sole_createOnce {draft : Draft} {type : TaskType} {setup : Setup}
    (hsole : draft.tasks.Sole type.declaredKind) :
    ((createOnce type setup).on draft).2.tasks.Sole type.declaredKind := by
  rw [on_createOnce]
  cases hfirst : draft.tasks.firstOfKind? type.declaredKind with
  | some id => exact hsole
  | none =>
      -- None was there, so whatever is of the kind now is what was made.
      have hmade : ∀ id, ((createUnnamed type setup).on draft).2.tasks.Offers type.declaredKind id →
          id = draft.tasks.id draft.tasks.size := by
        rintro id ⟨task, hget, hkind⟩
        rcases (effect (.createUnnamed type setup) draft).origin hget with ⟨_, hold, rfl⟩ | ⟨hid, _⟩
        · exact absurd ⟨_, hold, hkind⟩ (TaskList.not_offers_of_firstOfKind? hfirst id)
        · exact hid
      intro id other hid hother
      rw [hmade id hid, hmade other hother]

/-- The action neither makes a task of the kind nor changes one into such. -/
structure Spares (kind : TaskKind) (action : Action) : Prop where
  makes : ∀ task, action.Makes task → task.kind ≠ kind
  changes : ∀ id task, task.kind ≠ kind → (action.changed id task).kind ≠ kind

/-- To make a task of another kind spares a kind. -/
theorem spares_of_created? (htyped : action.setup.Typed) {other : TaskKind}
    (hcreated : action.created? = some (.builtIn other)) (hne : other ≠ kind) :
    Spares kind action where
  makes task hmade := by
    have htype := Option.some.inj ((hmade.created?_eq htyped).symm.trans hcreated)
    rwa [Task.kind, Body.kind_of_type htype]
  changes id task hkind := by
    cases action with
    | change => cases hcreated
    | create | createKind | createUnnamed | createOnce => exact hkind

/-- And so does a change of dependencies. -/
theorem spares_dependOn (target : TaskId) (ids : List TaskId) :
    Spares kind (.change target (Setup.dependOn ids)) where
  makes _ hmade := hmade.elim
  changes id task hkind := by
    rw [changed]
    split <;> exact hkind

theorem type_changed (htyped : action.setup.Typed) (id : TaskId) (task : Task) :
    (action.changed id task).body.type = task.body.type := by
  cases action with
  | change target setup =>
      rw [changed]
      split
      · exact htyped task
      · rfl
  | create | createKind | createUnnamed | createOnce => rfl

end Block.Action

end TaskScript
