/-
What an identifier leads to.  A list resolves the identifiers that carry its own number up to
its size, by every way of asking alike; storing and changing tasks leaves them leading to the
same tasks.
-/
import TaskScript.Proofs.Task.Action

namespace TaskScript

namespace TaskList

variable {tasks : TaskList} {id : TaskId} {task : Task}

theorem owns_eq_true_iff :
    tasks.owns id = true ↔ id.owner = tasks.owner ∧ id.index < tasks.size := by
  unfold owns position?
  split <;> simp_all

@[simp] theorem length_items (tasks : TaskList) : tasks.items.length = tasks.size := rfl

theorem getElem?_items (position : Fin tasks.size) :
    tasks.items[position.val]? = some (tasks.task position) :=
  List.getElem?_eq_getElem position.isLt

theorem get?_eq_some_iff :
    tasks.get? id = some task ↔ id.owner = tasks.owner ∧ tasks.items[id.index]? = some task := by
  unfold get?
  rw [Option.map_eq_some_iff]
  constructor
  · rintro ⟨position, hposition, rfl⟩
    obtain rfl := position?_eq_some_iff.mp hposition
    exact ⟨rfl, getElem?_items position⟩
  · rintro ⟨howner, hitem⟩
    have hlt : id.index < tasks.size := by
      simpa using (List.getElem?_eq_some_iff.mp hitem).1
    refine ⟨⟨id.index, hlt⟩, dif_pos ⟨howner, hlt⟩, ?_⟩
    exact Option.some.inj ((getElem?_items ⟨id.index, hlt⟩).symm.trans hitem)

theorem owns_eq_isSome_get? (tasks : TaskList) (id : TaskId) :
    tasks.owns id = (tasks.get? id).isSome := by
  rw [owns, get?, Option.isSome_map]

/-- The identifier leads to the task at its index, whichever way it is asked for. -/
structure Resolves (tasks : TaskList) (id : TaskId) (task : Task) : Prop where
  owner : id.owner = tasks.owner
  item : tasks.items[id.index]? = some task
  owns : tasks.owns id = true
  get : tasks.get? id = some task
  change : ∀ setup, tasks.change? id setup =
    some (tasks.modify id fun _ => (setup.on task).1, (setup.on task).2)

/-- The identifier leads nowhere, whichever way it is asked for. -/
structure Refuses (tasks : TaskList) (id : TaskId) : Prop where
  apart : id.owner = tasks.owner → tasks.size ≤ id.index
  owns : tasks.owns id = false
  get : tasks.get? id = none
  change : ∀ setup, tasks.change? id setup = none

theorem resolves_of_get? (hget : tasks.get? id = some task) : tasks.Resolves id task where
  owner := (get?_eq_some_iff.mp hget).1
  item := (get?_eq_some_iff.mp hget).2
  owns := by rw [owns_eq_isSome_get?, hget, Option.isSome_some]
  get := hget
  change setup := by simp only [change?, hget, Option.map_some]

theorem refuses_of_owns (howns : tasks.owns id = false) : tasks.Refuses id := by
  have hget : tasks.get? id = none := by
    rwa [owns_eq_isSome_get?, Option.isSome_eq_false_iff, Option.isNone_iff_eq_none] at howns
  refine ⟨fun howner => ?_, howns, hget, fun setup => by simp only [change?, hget, Option.map_none]⟩
  rw [Bool.eq_false_iff, ne_eq, owns_eq_true_iff] at howns
  exact Nat.le_of_not_lt fun hlt => howns ⟨howner, hlt⟩

theorem resolves_or_refuses (tasks : TaskList) (id : TaskId) :
    (∃ task, tasks.Resolves id task) ∨ tasks.Refuses id := by
  cases hget : tasks.get? id with
  | none => exact .inr (refuses_of_owns (by rw [owns_eq_isSome_get?, hget, Option.isSome_none]))
  | some task => exact .inl ⟨task, resolves_of_get? hget⟩

theorem refuses_of_owner_ne (hne : id.owner ≠ tasks.owner) : tasks.Refuses id := by
  refine refuses_of_owns ?_
  rw [Bool.eq_false_iff, ne_eq, owns_eq_true_iff]
  exact fun howned => hne howned.1

theorem items_store (tasks : TaskList) (task : Task) :
    (tasks.store task).items = tasks.items ++ [task] :=
  Registry.items_store ..

theorem get?_store_of_some {other : Task} (hget : tasks.get? id = some task) :
    (tasks.store other).get? id = some task := by
  obtain ⟨howner, hitem⟩ := get?_eq_some_iff.mp hget
  refine get?_eq_some_iff.mpr ⟨howner, ?_⟩
  rw [items_store, List.getElem?_append_left (List.getElem?_eq_some_iff.mp hitem).1, hitem]

theorem get?_store_self (tasks : TaskList) (task : Task) :
    (tasks.store task).get? (tasks.id tasks.size) = some task := by
  refine get?_eq_some_iff.mpr ⟨rfl, ?_⟩
  rw [items_store, TaskList.id, ← length_items, List.getElem?_concat_length]

theorem owner_modify (tasks : TaskList) (target : TaskId) (change : Task → Task) :
    (tasks.modify target change).owner = tasks.owner := by
  unfold modify
  split <;> rfl

theorem items_modify (howns : tasks.owns id = true) (change : Task → Task) :
    (tasks.modify id change).items = tasks.items.modify id.index change := by
  rw [modify, if_pos howns]
  rfl

theorem get?_modify {target : TaskId} (htarget : tasks.owns target = true) (change : Task → Task)
    (hget : tasks.get? id = some task) :
    (tasks.modify target change).get? id = some (if target = id then change task else task) := by
  obtain ⟨howner, hitem⟩ := get?_eq_some_iff.mp hget
  refine get?_eq_some_iff.mpr ⟨by rw [owner_modify, howner], ?_⟩
  have hsame : target.index = id.index ↔ target = id := by
    have htargetOwner : target.owner = tasks.owner := (owns_eq_true_iff.mp htarget).1
    obtain ⟨owner, index⟩ := id
    obtain ⟨owner', index'⟩ := target
    simp_all
  rw [items_modify htarget, List.getElem?_modify, hitem]
  simp only [Option.map_eq_map, Option.map_some, hsame]

end TaskList

namespace Block.Action

variable {tasks next : TaskList} {action : Action} {id : TaskId}

/-- What the action makes of the task that an identifier leads to. -/
def changed (id : TaskId) : Action → Task → Task
  | change target setup, task => if target = id then (setup.on task).1 else task
  | create .., task | createKind .., task | createUnnamed .., task | createOnce .., task => task

/-- The action gives out the identifier for a task: one that it made, or the first one of the
kind it asks for. -/
def GivesOut (action : Action) (tasks : TaskList) (id : TaskId) (task : Task) : Prop :=
  id = tasks.id tasks.size ∧ action.Makes task ∨
    ∃ type setup, action = .createOnce type setup ∧
      tasks.firstOfKind? type.declaredKind = some id ∧ tasks.get? id = some task

theorem exists_get?_of_firstOfKind? {kind : TaskKind}
    (hfirst : tasks.firstOfKind? kind = some id) : ∃ task, tasks.get? id = some task := by
  unfold TaskList.firstOfKind? at hfirst
  obtain ⟨index, hindex, rfl⟩ := Option.map_eq_some_iff.mp hfirst
  obtain ⟨hlt, _⟩ := List.findIdx?_eq_some_iff_getElem.mp hindex
  exact ⟨tasks.items[index], TaskList.get?_eq_some_iff.mpr ⟨rfl, List.getElem?_eq_getElem hlt⟩⟩

theorem Effect.owner {result : Except Failure (Option TaskId)}
    (heffect : Effect tasks action result next) : next.owner = tasks.owner := by
  cases heffect with
  | stores | finds | misses | fails => rfl
  | changes => exact TaskList.owner_modify ..

theorem changed_of_ne_change (hcreates : ∀ target setup, action ≠ .change target setup)
    (task : Task) : action.changed id task = task := by
  cases action with
  | change target setup => exact absurd rfl (hcreates target setup)
  | create | createKind | createUnnamed | createOnce => rfl

theorem Makes.ne_change {task : Task} (hmade : action.Makes task) (target : TaskId)
    (setup : Setup) : action ≠ .change target setup := by
  rintro rfl
  exact hmade

/-- Whatever is done, an identifier that led to a task leads to it still. -/
theorem Effect.get?_eq {result : Except Failure (Option TaskId)}
    (heffect : Effect tasks action result next) {task : Task} (hget : tasks.get? id = some task) :
    next.get? id = some (action.changed id task) := by
  cases heffect with
  | stores hmade _ =>
      rw [changed_of_ne_change hmade.ne_change]
      exact TaskList.get?_store_of_some hget
  | finds _ => exact hget
  | @changes target setup other htarget =>
      have howns : tasks.owns target = true := (TaskList.resolves_of_get? htarget).owns
      rw [TaskList.get?_modify howns _ hget]
      by_cases hsame : target = id
      · subst hsame
        obtain rfl := Option.some.inj (htarget.symm.trans hget)
        simp [changed]
      · simp [changed, hsame]
  | @misses target setup hmissed =>
      have hne : target ≠ id := by
        rintro rfl
        cases hmissed.symm.trans hget
      simpa [changed, hne] using hget
  | fails hcreates =>
      rw [changed_of_ne_change hcreates]
      exact hget

/-- An identifier that is given out leads to the task it is given out for. -/
theorem Effect.exists_givesOut {result : Except Failure (Option TaskId)}
    (heffect : Effect tasks action result next) (hresult : result = .ok (some id)) :
    ∃ task, next.get? id = some task ∧ action.GivesOut tasks id task := by
  cases heffect with
  | stores hmade _ =>
      obtain rfl := Option.some.inj (Except.ok.inj hresult)
      exact ⟨_, TaskList.get?_store_self .., .inl ⟨rfl, hmade⟩⟩
  | finds hfound =>
      obtain rfl := Option.some.inj (Except.ok.inj hresult)
      obtain ⟨task, hget⟩ := exists_get?_of_firstOfKind? hfound
      exact ⟨task, hget, .inr ⟨_, _, rfl, hfound, hget⟩⟩
  | @changes target setup task _ =>
      cases hend : (setup.on task).2 <;> simp [hend, Except.map] at hresult
  | misses => cases hresult
  | fails => cases hresult

end Block.Action

end TaskScript
