/-
Drafts that share one supply of names, whatever is done to them in whatever order.  The numbers
of the names that are handed out go up along the run, so no name is handed out twice.
-/
import TaskScript.Proofs.Draft.Naming

namespace TaskScript

open Block

/-- A supply of names and the drafts that draw from it. -/
structure Commons where
  names : NameSupply := {}
  drafts : List Draft := []

namespace Commons

/-- What happens to drafts that share a supply.  Names that are asked for while a task is being
configured are drawn after the name of the task, so they count as asked for after it. -/
inductive Event where
  | join (draft : Draft)
  /-- A name is drawn for whatever use. -/
  | draw
  | ask (index : Nat) (request : Request)
  /-- Anything is done to the draft that draws no name. -/
  | adjust (index : Nat) (change : Draft → Draft)

/-- A draft with the names that are left. -/
def lent? (commons : Commons) (index : Nat) : Option Draft :=
  commons.drafts[index]?.map fun draft => { draft with names := commons.names }

def next (commons : Commons) : Event → Commons
  | .join draft => { commons with drafts := commons.drafts ++ [draft] }
  | .draw => { commons with names := commons.names.draw.2 }
  | .ask index request =>
      match commons.lent? index with
      | none => commons
      | some draft =>
          { names := (request.on draft).2.names
            drafts := commons.drafts.set index (request.on draft).2 }
  | .adjust index change => { commons with drafts := commons.drafts.modify index change }

/-- The commons after a number of events. -/
def after (commons : Commons) (events : List Event) : Commons := events.foldl next commons

/-- The number of the name that is handed out when the event happens. -/
def number? (commons : Commons) : Event → Option Nat
  | .draw => some commons.names.next
  | .ask index request => (commons.lent? index).bind request.number?
  | .join _ | .adjust .. => none

/-- The numbers of the names that are handed out along the events, the first first. -/
def numbers (commons : Commons) : List Event → List Nat
  | [] => []
  | event :: events => (commons.number? event).toList ++ (commons.next event).numbers events

variable {commons : Commons}

theorem names_next (commons : Commons) (event : Event) :
    (commons.next event).names =
      ((commons.number? event).map fun number => ⟨number + 1⟩).getD commons.names := by
  cases event with
  | join | draw | adjust => rfl
  | ask index request =>
      simp only [next, number?]
      cases hlent : commons.lent? index with
      | none => rfl
      | some draft =>
          obtain ⟨_, _, rfl⟩ := Option.map_eq_some_iff.mp hlent
          exact request.names_on _

theorem le_of_number?_eq_some {event : Event} {number : Nat}
    (hnumber : commons.number? event = some number) : commons.names.next ≤ number := by
  cases event with
  | join | adjust => cases hnumber
  | draw =>
      obtain rfl := Option.some.inj hnumber
      exact Nat.le_refl _
  | ask index request =>
      obtain ⟨draft, hlent, hrequest⟩ := Option.bind_eq_some_iff.mp hnumber
      obtain ⟨_, _, rfl⟩ := Option.map_eq_some_iff.mp hlent
      exact Request.le_of_number?_eq_some hrequest

/-- Numbers in ascending order from one state of a counter up to another. -/
structure Between (first last : Nat) (numbers : List Nat) : Prop where
  le : first ≤ last
  ascending : numbers.Pairwise (· < ·)
  mem : ∀ number ∈ numbers, first ≤ number ∧ number < last

theorem between_next (commons : Commons) (event : Event) :
    Between commons.names.next (commons.next event).names.next (commons.number? event).toList := by
  rw [names_next]
  cases hnumber : commons.number? event with
  | none => exact ⟨Nat.le_refl _, .nil, nofun⟩
  | some number =>
      have hle := le_of_number?_eq_some hnumber
      refine ⟨Nat.le_succ_of_le hle, List.pairwise_singleton _ _, fun other hmem => ?_⟩
      obtain rfl := List.mem_singleton.mp hmem
      exact ⟨hle, Nat.lt_succ_self _⟩

theorem Between.append {first middle last : Nat} {left right : List Nat}
    (hleft : Between first middle left) (hright : Between middle last right) :
    Between first last (left ++ right) where
  le := Nat.le_trans hleft.le hright.le
  ascending :=
    List.pairwise_append.mpr ⟨hleft.ascending, hright.ascending, fun _ ha _ hb =>
      Nat.lt_of_lt_of_le (hleft.mem _ ha).2 (hright.mem _ hb).1⟩
  mem number hmem := by
    rcases List.mem_append.mp hmem with hmem | hmem
    · exact ⟨(hleft.mem _ hmem).1, Nat.lt_of_lt_of_le (hleft.mem _ hmem).2 hright.le⟩
    · exact ⟨Nat.le_trans hleft.le (hright.mem _ hmem).1, (hright.mem _ hmem).2⟩

theorem between_after (commons : Commons) (events : List Event) :
    Between commons.names.next (commons.after events).names.next (commons.numbers events) := by
  induction events generalizing commons with
  | nil => exact ⟨Nat.le_refl _, .nil, nofun⟩
  | cons event events ih => exact (commons.between_next event).append (ih (commons.next event))

/-- All drafts are in step. -/
def InStep (commons : Commons) : Prop := ∀ draft ∈ commons.drafts, draft.InStep

/-- The event brings in no draft that is out of step, and puts none out of step. -/
def Event.KeepsStep : Event → Prop
  | join draft => draft.InStep
  | adjust _ change => ∀ draft : Draft, draft.InStep → (change draft).InStep
  | draw | ask .. => True

theorem InStep.next (hstep : commons.InStep) {event : Event} (hkeeps : event.KeepsStep) :
    (commons.next event).InStep := by
  intro draft hdraft
  cases event with
  | join joined =>
      rcases List.mem_append.mp hdraft with hdraft | hdraft
      · exact hstep draft hdraft
      · obtain rfl := List.mem_singleton.mp hdraft
        exact hkeeps
  | draw => exact hstep draft hdraft
  | ask index request =>
      simp only [Commons.next] at hdraft
      split at hdraft
      · exact hstep draft hdraft
      · rename_i lent hlent
        obtain ⟨old, hold, rfl⟩ := Option.map_eq_some_iff.mp hlent
        have hlent := hstep old (List.mem_of_getElem? hold)
        rcases List.mem_or_eq_of_mem_set hdraft with hdraft | rfl
        · exact hstep draft hdraft
        · exact request.keepsStep_program _ ⟨hlent.declared, hlent.tasks⟩
  | adjust index change =>
      obtain ⟨position, hposition⟩ := List.mem_iff_getElem?.mp hdraft
      rw [Commons.next, List.getElem?_modify] at hposition
      obtain ⟨old, hold, rfl⟩ := Option.map_eq_some_iff.mp hposition
      have hold := hstep old (List.mem_of_getElem? hold)
      split
      · exact hkeeps old hold
      · exact hold

theorem InStep.after (hstep : commons.InStep) {events : List Event}
    (hkeep : ∀ event ∈ events, event.KeepsStep) : (commons.after events).InStep :=
  List.foldlRecOn events Commons.next hstep fun _ hcommons event hevent =>
    hcommons.next (hkeep event hevent)

/-- A request for a name ends after drawing at most one name more than there are in the registry
it is for, with the least number from the counter on that is free there, and is not refused for
the name.  Along any run of any drafts the numbers go up, so no name is handed out twice; as
long as the counter is a word, the words are the numbers.  Drafts that are in step stay so. -/
theorem generated_names_are_fresh :
    (∀ draft : Draft, ∃ number next, Request.declareUnique.number? draft = some number ∧
      Settles declare draft.declared draft number
        (draft.env.variableNamed (NameSupply.nameAt number)) next ∧
      declareUnique.run.run draft =
        (.ok (draft.env.variableNamed (NameSupply.nameAt number)), next)) ∧
    (∀ (draft : Draft) (type : TaskType) (setup : Setup), ∃ number,
      (Request.createUnnamed type setup).number? draft = some number ∧
      Request.Creates draft type setup number) ∧
    ∀ (commons : Commons) (events : List Event),
      Between commons.names.next (commons.after events).names.next (commons.numbers events) ∧
      ((commons.numbers events).map NameSupply.nameAt).Nodup ∧
      ((commons.after events).names.next < UInt64.size →
        (commons.numbers events).map (fun number => (UInt64.ofNat number).toNat) =
          commons.numbers events) ∧
      (commons.InStep → (∀ event ∈ events, event.KeepsStep) → (commons.after events).InStep) := by
  refine ⟨Request.run_declareUnique_eq_ok, Request.exists_creates, fun commons events => ?_⟩
  have hbetween := commons.between_after events
  refine ⟨hbetween, ?_, fun hword => ?_, fun hstep => hstep.after⟩
  · exact List.Nodup.map NameSupply.nameAt_injective (hbetween.ascending.imp Nat.ne_of_lt)
  · refine (List.map_congr_left fun number hmem => ?_).trans (List.map_id _)
    have hlt := (hbetween.mem number hmem).2
    exact UInt64.toNat_ofNat_of_lt' (Nat.lt_trans hlt hword)

/-- A draft that is about to draw the second name, which a task of it has already. -/
def crowded : Draft :=
  { env := { acceptsPath := fun _ => true }
    names := ⟨2⟩
    tasks :=
      { owner := 1, registry := Registry.store {} ({ body := .empty, name := "var2" } : Task) } }

/-- Two drafts in turn.  Of the names that they ask for, one is taken by a variable of the first
and one by a task of the second. -/
def turns : List Event :=
  [.join { env := { acceptsPath := fun _ => true }, names := {}, tasks := { owner := 2 } },
    .join crowded,
    .draw,
    .adjust 0 fun draft => ((declare "var4").run.run draft).2,
    .ask 1 (.createUnnamed (.builtIn .empty) (pure ())),
    .ask 0 .declareUnique,
    .ask 1 (.createOnce (.builtIn .empty) (pure ())),
    .ask 0 (.createOnce (.builtIn .empty) (pure ()))]

theorem inStep_crowded : crowded.InStep where
  declared := Registry.inStep_empty
  tasks := Registry.inStep_empty.store List.not_mem_nil

theorem generated_names_are_fresh_in_turn :
    (({} : Commons).after turns).names.next < UInt64.size ∧
      ({} : Commons).numbers turns = [1, 3, 5, 6] ∧
      (({} : Commons).numbers turns).map (fun number => (UInt64.ofNat number).toNat) =
        [1, 3, 5, 6] ∧
      ({} : Commons).InStep ∧ (∀ event ∈ turns, event.KeepsStep) ∧
      (({} : Commons).after turns).InStep ∧
      crowded.tasks.registry.InStep ∧
      (∃ count ≤ 2, (crowded.names.drawMany count).2 = ⟨4⟩) ∧
      (createUnnamed (.builtIn .empty) (pure ())).run.run crowded =
        (.ok ⟨1, 1⟩,
          { crowded with
            names := ⟨4⟩
            tasks := crowded.tasks.store { body := .empty, name := "var3" } }) := by
  obtain ⟨_, hcreates, hruns⟩ := generated_names_are_fresh
  have hword : (({} : Commons).after turns).names.next < UInt64.size := by decide +kernel
  have hnumbers : ({} : Commons).numbers turns = [1, 3, 5, 6] := by decide +kernel
  obtain ⟨_, _, hwords, hstays⟩ := hruns {} turns
  have hwords := hwords hword
  rw [hnumbers] at hwords
  have hkeep : ∀ event ∈ turns, event.KeepsStep := by
    simp only [turns, List.forall_mem_cons]
    exact ⟨⟨Registry.inStep_empty, Registry.inStep_empty⟩, inStep_crowded, trivial,
      keepsStep_declare "var4", trivial, trivial, trivial, trivial, List.forall_mem_nil _⟩
  obtain ⟨number, hnumber, hcreated⟩ := hcreates crowded (.builtIn .empty) (pure ())
  have hthird : Request.number? crowded (.createUnnamed (.builtIn .empty) (pure ())) = some 3 := by
    decide +kernel
  obtain rfl : number = 3 := Option.some.inj (hnumber.symm.trans hthird)
  obtain ⟨count, _, hfew, hdrawn, _⟩ := hcreated.settles.retries
  have hcount : count ≤ 2 := hfew inStep_crowded.tasks
  exact ⟨hword, hnumbers, hnumbers ▸ hwords, nofun, hkeep, hstays nofun hkeep, inStep_crowded.tasks,
    ⟨count, hcount, hdrawn⟩, hcreated.stored .empty _ rfl rfl rfl⟩

end Commons

end TaskScript
