/-
The drafts of one session side by side, whatever is done to them in whatever order.  An
identifier that a draft gives out leads to its task for the life of the draft, and no other
draft knows it.
-/
import TaskScript.Proofs.Plan.Foreign

namespace TaskScript

/-- A session and the drafts that were started in it, the oldest first. -/
structure Desk where
  session : Session
  drafts : List Draft := []

namespace Desk

/-- What happens at a desk.  Nothing can happen to a draft that was not started. -/
inductive Event where
  | start (env : Environment)
  /-- The draft gives the supply of names back. -/
  | finish (index : Nat)
  | act (index : Nat) (action : Block.Action)
  /-- Anything is done to the draft but to its tasks. -/
  | adjust (index : Nat) (change : Draft → Draft)

def next (desk : Desk) : Event → Desk
  | .start env =>
      { session := (desk.session.start env).2
        drafts := desk.drafts ++ [(desk.session.start env).1] }
  | .finish index =>
      { desk with session := (desk.drafts[index]?.map desk.session.finish).getD desk.session }
  | .act index action =>
      { desk with drafts := desk.drafts.modify index fun draft => (action.on draft).2 }
  | .adjust index change =>
      { desk with
        drafts := desk.drafts.modify index fun draft => { change draft with tasks := draft.tasks } }

/-- The desk after a number of events. -/
def after (desk : Desk) (events : List Event) : Desk := events.foldl next desk

/-- The tasks of a draft. -/
def tasks? (desk : Desk) (index : Nat) : Option TaskList := desk.drafts[index]?.map Draft.tasks

/-- The draft and the identifier that it gives out when the event happens. -/
def issued? (desk : Desk) : Event → Option (Nat × TaskId)
  | .act index action =>
      desk.drafts[index]?.bind fun draft =>
        match (action.on draft).1 with
        | .ok (some id) => some (index, id)
        | .ok none | .error _ => none
  | .start _ | .finish _ | .adjust .. => none

namespace Event

/-- What the event makes of a draft that was started. -/
def on (index : Nat) : Event → Draft → Draft
  | act target action, draft => if target = index then (action.on draft).2 else draft
  | adjust target change, draft =>
      if target = index then { change draft with tasks := draft.tasks } else draft
  | start _, draft | finish _, draft => draft

/-- What the event makes of the task that an identifier leads to in a draft. -/
def changed (index : Nat) (id : TaskId) : Event → Task → Task
  | act target action, task => if target = index then action.changed id task else task
  | start _, task | finish _, task | adjust .., task => task

theorem owner_on (event : Event) (index : Nat) (draft : Draft) :
    (event.on index draft).tasks.owner = draft.tasks.owner := by
  cases event with
  | start | finish => rfl
  | act target action =>
      simp only [on]
      split
      · exact (action.effect draft).owner
      · rfl
  | adjust target change =>
      simp only [on]
      split <;> rfl

theorem get?_on (event : Event) {index : Nat} {draft : Draft} {id : TaskId} {task : Task}
    (hget : draft.tasks.get? id = some task) :
    (event.on index draft).tasks.get? id = some (event.changed index id task) := by
  cases event with
  | start | finish => exact hget
  | act target action =>
      simp only [on, changed]
      split
      · exact (action.effect draft).get?_eq hget
      · exact hget
  | adjust target change =>
      simp only [on]
      split <;> exact hget

end Event

variable {desk : Desk} {index : Nat} {draft : Draft} {id : TaskId} {task : Task}

/-- A draft that was started is at the desk still, as the event left it. -/
theorem getElem?_drafts_next (event : Event) (hdraft : desk.drafts[index]? = some draft) :
    (desk.next event).drafts[index]? = some (event.on index draft) := by
  cases event with
  | start env =>
      have hlt : index < desk.drafts.length := (List.getElem?_eq_some_iff.mp hdraft).1
      exact (List.getElem?_append_left hlt).trans hdraft
  | finish target => exact hdraft
  | act target action =>
      rw [next, List.getElem?_modify, hdraft]
      simp only [Event.on]
      split <;> rfl
  | adjust target change =>
      rw [next, List.getElem?_modify, hdraft]
      simp only [Event.on]
      split <;> rfl

/-- The drafts carry consecutive numbers, and the session holds the one that follows. -/
structure Numbered (first : Nat) (desk : Desk) : Prop where
  nextOwner : desk.session.nextOwner = first + desk.drafts.length
  owner : ∀ index draft, desk.drafts[index]? = some draft → draft.tasks.owner = first + index

theorem Numbered.next {first : Nat} (hnumbered : desk.Numbered first) (event : Event) :
    (desk.next event).Numbered first where
  nextOwner := by
    cases event with
    | start env =>
        have hcount := hnumbered.nextOwner
        simp only [Desk.next, Session.start, List.length_append, List.length_singleton]
        omega
    | finish target =>
        simp only [Desk.next]
        cases desk.drafts[target]? <;> exact hnumbered.nextOwner
    | act | adjust => simpa [Desk.next] using hnumbered.nextOwner
  owner index draft hdraft := by
    -- A draft that was there keeps its number; any other one was started just now.
    by_cases hlt : index < desk.drafts.length
    · have hnext := getElem?_drafts_next event (List.getElem?_eq_getElem hlt)
      obtain rfl := Option.some.inj (hdraft.symm.trans hnext)
      rw [event.owner_on]
      exact hnumbered.owner index _ (List.getElem?_eq_getElem hlt)
    · have hbound : index < (desk.next event).drafts.length :=
        (List.getElem?_eq_some_iff.mp hdraft).1
      cases event with
      | start env =>
          obtain rfl : index = desk.drafts.length := by
            simp only [Desk.next, List.length_append, List.length_singleton] at hbound
            omega
          simp only [Desk.next, List.getElem?_concat_length, Option.some.injEq] at hdraft
          rw [← hdraft]
          exact hnumbered.nextOwner
      | finish | act | adjust => simp [Desk.next, hlt] at hbound

theorem Numbered.after {first : Nat} (hnumbered : desk.Numbered first) (events : List Event) :
    (desk.after events).Numbered first :=
  List.foldlRecOn events Desk.next hnumbered fun _ hdesk event _ => hdesk.next event

theorem numbered_of_session (session : Session) :
    (Desk.mk session []).Numbered session.nextOwner where
  nextOwner := by simp
  owner index draft hdraft := by simp at hdraft

/-- The number of a draft, cut to a word, tells it apart from all others as long as there are
fewer drafts than words. -/
theorem Numbered.eq_of_word_eq {first : Nat} (hnumbered : desk.Numbered first)
    (hfew : desk.drafts.length < 2 ^ 64) {i j : Nat} {left right : Draft}
    (hleft : desk.drafts[i]? = some left) (hright : desk.drafts[j]? = some right)
    (hword : UInt64.ofNat left.tasks.owner = UInt64.ofNat right.tasks.owner) : i = j := by
  have hi : i < desk.drafts.length := (List.getElem?_eq_some_iff.mp hleft).1
  have hj : j < desk.drafts.length := (List.getElem?_eq_some_iff.mp hright).1
  have hmod := congrArg UInt64.toNat hword
  rw [hnumbered.owner i left hleft, hnumbered.owner j right hright, UInt64.toNat_ofNat',
    UInt64.toNat_ofNat'] at hmod
  omega

/-- The identifier leads to the task in one of the drafts. -/
def Leads (desk : Desk) (index : Nat) (id : TaskId) (task : Task) : Prop :=
  ∃ draft, desk.drafts[index]? = some draft ∧ draft.tasks.get? id = some task

/-- What a number of events make of the task that an identifier leads to in a draft. -/
def changedAlong (index : Nat) (id : TaskId) (events : List Event) (task : Task) : Task :=
  events.foldl (fun task event => event.changed index id task) task

theorem Leads.next (hleads : desk.Leads index id task) (event : Event) :
    (desk.next event).Leads index id (event.changed index id task) := by
  obtain ⟨draft, hdraft, hget⟩ := hleads
  exact ⟨event.on index draft, getElem?_drafts_next event hdraft, event.get?_on hget⟩

theorem Leads.after (hleads : desk.Leads index id task) (events : List Event) :
    (desk.after events).Leads index id (changedAlong index id events task) := by
  induction events generalizing desk task with
  | nil => exact hleads
  | cons event rest ih => exact ih (hleads.next event)

theorem issued?_eq_some_iff {event : Event} :
    desk.issued? event = some (index, id) ↔
      ∃ action draft, event = .act index action ∧ desk.drafts[index]? = some draft ∧
        (action.on draft).1 = .ok (some id) := by
  cases event with
  | start | finish | adjust => simp [issued?]
  | act target action =>
      simp only [issued?, Option.bind_eq_some_iff, Event.act.injEq]
      constructor
      · rintro ⟨draft, hdraft, hresult⟩
        rcases hon : (action.on draft).1 with failure | _ | given
        · simp [hon] at hresult
        · simp [hon] at hresult
        · simp only [hon, Option.some.injEq, Prod.mk.injEq] at hresult
          obtain ⟨rfl, rfl⟩ := hresult
          exact ⟨action, draft, ⟨rfl, rfl⟩, hdraft, hon⟩
      · rintro ⟨_, draft, ⟨rfl, rfl⟩, hdraft, hon⟩
        exact ⟨draft, hdraft, by rw [hon]⟩

/-- The identifier leads to the task in one draft.  To every other draft it is foreign, and a
plan made of that draft is none the different for it but for the problems it reports. -/
structure KnownIn (desk : Desk) (index : Nat) (id : TaskId) (task : Task) : Prop where
  own : ∃ tasks, desk.tasks? index = some tasks ∧ tasks.Resolves id task
  others : ∀ other tasks, other ≠ index → desk.tasks? other = some tasks →
    tasks.Refuses id ∧ ∀ plan : Plan, plan.tasks = tasks → plan.Isolates id

theorem KnownIn.of_leads {first : Nat} (hnumbered : desk.Numbered first)
    (hleads : desk.Leads index id task) : desk.KnownIn index id task := by
  obtain ⟨draft, hdraft, hget⟩ := hleads
  have hresolves := TaskList.resolves_of_get? hget
  refine ⟨⟨draft.tasks, by rw [tasks?, hdraft, Option.map_some], hresolves⟩, ?_⟩
  intro other tasks hother htasks
  obtain ⟨second, hsecond, rfl⟩ := Option.map_eq_some_iff.mp htasks
  have howner : id.owner ≠ second.tasks.owner := by
    rw [hresolves.owner, hnumbered.owner index draft hdraft, hnumbered.owner other second hsecond]
    omega
  have hrefuses := TaskList.refuses_of_owner_ne howner
  refine ⟨hrefuses, fun plan hplan => Plan.isolates_of_foreign ?_⟩
  rw [hplan]
  exact hrefuses.owns

/-- Whatever happens later, an identifier that was given out leads to the task it was given out
for, changed only by what was done through it, and no other draft knows it.  In every plan an
identifier either leads to a task that is there, whichever way it is asked for, or it adds no
edge to the graph and is reported.  As long as there are fewer drafts than words, their numbers
are different words. -/
theorem identifiers_lead_for_life (session : Session) (events : List Event) :
    (∀ before event later index id, events = before ++ event :: later →
      ((Desk.mk session []).after before).issued? event = some (index, id) →
      ∃ action draft task, event = .act index action ∧
        ((Desk.mk session []).after before).drafts[index]? = some draft ∧
        action.GivesOut draft.tasks id task ∧
        ((Desk.mk session []).after events).KnownIn index id (changedAlong index id later task)) ∧
    (∀ plan : Plan, ∀ id, (∃ task, plan.tasks.Resolves id task) ∨
      plan.tasks.Refuses id ∧ plan.Isolates id) ∧
    (((Desk.mk session []).after events).drafts.length < 2 ^ 64 → ∀ i j left right,
      ((Desk.mk session []).after events).tasks? i = some left →
      ((Desk.mk session []).after events).tasks? j = some right →
      UInt64.ofNat left.owner = UInt64.ofNat right.owner → i = j) := by
  have hnumbered := (numbered_of_session session).after events
  refine ⟨?_, ?_, ?_⟩
  · rintro before event later index id rfl hissued
    obtain ⟨action, draft, rfl, hdraft, hresult⟩ := issued?_eq_some_iff.mp hissued
    obtain ⟨task, hget, hgives⟩ := (action.effect draft).exists_givesOut hresult
    refine ⟨action, draft, task, rfl, hdraft, hgives, KnownIn.of_leads hnumbered ?_⟩
    have hissuing : (((Desk.mk session []).after before).next (.act index action)).Leads index id
        task := by
      refine ⟨_, getElem?_drafts_next _ hdraft, ?_⟩
      rw [Event.on, if_pos rfl]
      exact hget
    simpa only [after, List.foldl_append, List.foldl_cons] using hissuing.after later
  · intro plan id
    rcases plan.tasks.resolves_or_refuses id with hresolves | hrefuses
    · exact .inl hresolves
    · exact .inr ⟨hrefuses, Plan.isolates_of_foreign hrefuses.owns⟩
  · intro hfew i j left right hleft hright hword
    obtain ⟨first, hfirst, rfl⟩ := Option.map_eq_some_iff.mp hleft
    obtain ⟨second, hsecond, rfl⟩ := Option.map_eq_some_iff.mp hright
    exact hnumbered.eq_of_word_eq hfew hfirst hsecond hword

/-- Two drafts are started, and the first one makes a task. -/
def opening : List Event :=
  [.start { acceptsPath := fun _ => true }, .start { acceptsPath := fun _ => true }]

/-- The second draft makes a task that depends on the one of the first draft, and fails to make
another of the same name; the first draft finds its task again and changes it; then the second
draft marks that task as its last. -/
def continuation : List Event :=
  [.act 1 (.create (.builtIn .empty) "task" (Setup.dependOn [⟨1, 0⟩])),
    .act 1 (.create (.builtIn .empty) "task" (pure ())),
    .act 0 (.createOnce (.builtIn .empty) (pure ())),
    .act 0 (.change ⟨1, 0⟩ (Setup.dependOn [⟨2, 0⟩])),
    .adjust 1 fun draft => { draft with last := some ⟨1, 0⟩ }]

theorem identifiers_lead_for_life_interleaved :
    let making : Event := .act 0 (.create (.builtIn .empty) "task" (pure ()))
    let desk := (Desk.mk {} []).after (opening ++ making :: continuation)
    ((Desk.mk {} []).after opening).issued? making = some (0, ⟨1, 0⟩) ∧
      desk.drafts.length < 2 ^ 64 ∧
      (∃ task, desk.KnownIn 0 ⟨1, 0⟩ (changedAlong 0 ⟨1, 0⟩ continuation task)) ∧
      (∃ tasks, desk.tasks? 1 = some tasks ∧
        tasks.items.map (·.dependencies) = [.single ⟨1, 0⟩] ∧
        ∀ plan : Plan, plan.tasks = tasks → plan.Isolates ⟨1, 0⟩) ∧
      ∀ i j left right, desk.tasks? i = some left → desk.tasks? j = some right →
        UInt64.ofNat left.owner = UInt64.ofNat right.owner → i = j := by
  intro making desk
  have hissued : ((Desk.mk {} []).after opening).issued? making = some (0, ⟨1, 0⟩) := rfl
  have hfew : desk.drafts.length < 2 ^ 64 := by
    rw [show desk.drafts.length = 2 from rfl]
    decide
  obtain ⟨hissues, _, hwords⟩ :=
    identifiers_lead_for_life {} (opening ++ making :: continuation)
  obtain ⟨_, _, task, _, _, _, hknown⟩ := hissues opening making continuation _ _ rfl hissued
  refine ⟨hissued, hfew, ⟨task, hknown⟩, ⟨_, rfl, by decide, ?_⟩, hwords hfew⟩
  exact (hknown.others 1 _ (by decide) rfl).2

end Desk

end TaskScript
