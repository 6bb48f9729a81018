/-
Registries stand for keyed lists.  A registry has its items in one place and the index of their
names in another; the two are in step if the index leads to every position once and from different
names.  Every operation keeps them in step, so over any run a registry answers as the keyed list
does that has the names in which items were stored beside the items.
-/
import Mathlib.Data.List.Nodup
import TaskScript.Registry

namespace TaskScript

/-- An item and the name it had when it was stored. -/
structure Entry (α : Type) where
  key : String
  item : α
  deriving DecidableEq, Repr

/-- Items with their keys, in the order they were stored. -/
abbrev Ledger (α : Type) := List (Entry α)

namespace Ledger

variable {α : Type}

def keys (ledger : Ledger α) : List String := ledger.map Entry.key

def items (ledger : Ledger α) : List α := ledger.map Entry.item

/-- The item at the end, under the name that it has now. -/
def enter [Named α] (ledger : Ledger α) (item : α) : Ledger α :=
  ledger ++ [⟨Named.name item, item⟩]

/-- Changes the item at a position, whose key stays. -/
def amend (ledger : Ledger α) (position : Nat) (change : α → α) : Ledger α :=
  ledger.modify position fun entry => { entry with item := change entry.item }

@[simp] theorem length_keys (ledger : Ledger α) : ledger.keys.length = ledger.length := by
  simp [keys]

@[simp] theorem keys_enter [Named α] (ledger : Ledger α) (item : α) :
    (ledger.enter item).keys = ledger.keys ++ [Named.name item] := by
  simp [keys, enter]

@[simp] theorem items_enter [Named α] (ledger : Ledger α) (item : α) :
    (ledger.enter item).items = ledger.items ++ [item] := by
  simp [items, enter]

@[simp] theorem keys_amend (ledger : Ledger α) (position : Nat) (change : α → α) :
    (ledger.amend position change).keys = ledger.keys := by
  apply List.ext_getElem?
  intro index
  simp only [keys, amend, List.getElem?_map, List.getElem?_modify]
  cases ledger[index]? with
  | none => simp
  | some entry => by_cases h : position = index <;> simp [h]

theorem items_amend (ledger : Ledger α) (position : Nat) (change : α → α) :
    (ledger.amend position change).items = ledger.items.modify position change := by
  apply List.ext_getElem?
  intro index
  simp only [items, amend, List.getElem?_map, List.getElem?_modify]
  cases ledger[index]? with
  | none => simp
  | some entry => by_cases h : position = index <;> simp [h]

end Ledger

theorem NameIndex.get?_eq_some_iff {index : NameIndex} (hnodup : index.names.Nodup) {name : String}
    {position : Nat} : index.get? name = some position ↔ (name, position) ∈ index.pairs := by
  rw [get?, List.lookup_eq_some_iff, ← List.mem_reverse]
  constructor
  · rintro ⟨before, after, hsplit, _⟩
    rw [hsplit]
    exact List.mem_append_right _ List.mem_cons_self
  · intro hmem
    obtain ⟨before, after, hsplit⟩ := List.append_of_mem hmem
    refine ⟨before, after, hsplit, fun pair hpair => ?_⟩
    -- Another pair of the name would make it come twice among the names.
    rw [names, ← List.nodup_reverse, ← List.map_reverse, hsplit, List.map_append,
      List.nodup_append] at hnodup
    have hne := hnodup.2.2 pair.1 (List.mem_map_of_mem hpair) name (by simp)
    exact bne_iff_ne.mpr hne.symm

namespace Registry

variable {α ε : Type}

/-- The index leads to every position of the items once, and from different names. -/
structure InStep (registry : Registry α) : Prop where
  positions : registry.index.positions = List.range registry.size
  nodup : registry.keys.Nodup

theorem inStep_empty : ({} : Registry α).InStep := ⟨rfl, List.nodup_nil⟩

theorem InStep.store [Named α] {registry : Registry α} (hstep : registry.InStep) {item : α}
    (hfree : Named.name item ∉ registry.keys) : (registry.store item).InStep where
  positions := by
    have hsize : (registry.store item).size = registry.size + 1 := by simp [size]
    rw [hsize, List.range_succ, ← hstep.positions]
    exact NameIndex.positions_insert ..
  nodup := by
    rw [keys_store]
    exact List.nodup_append.mpr ⟨hstep.nodup, List.nodup_singleton _, fun name hname other hother =>
      fun heq => hfree (List.mem_singleton.mp hother ▸ heq ▸ hname)⟩

theorem InStep.modify {registry : Registry α} (hstep : registry.InStep) (position : Nat)
    (change : α → α) : (registry.modify position change).InStep where
  positions := by
    have hsize : (registry.modify position change).size = registry.size := by
      simp [size, Registry.modify]
    rw [hsize]
    exact hstep.positions
  nodup := hstep.nodup

theorem InStep.length_keys {registry : Registry α} (hstep : registry.InStep) :
    registry.keys.length = registry.size := by
  have hlength := congrArg List.length hstep.positions
  simpa [NameIndex.positions, keys, NameIndex.names] using hlength

theorem InStep.pairs {registry : Registry α} (hstep : registry.InStep) :
    registry.index.pairs = registry.keys.zipIdx := by
  rw [List.zipIdx_eq_zip_range', ← List.range_eq_range', hstep.length_keys, ← hstep.positions]
  exact (List.zip_unzip _).symm.trans (by rw [List.unzip_fst, List.unzip_snd]; rfl)

/-- A name leads to a position if and only if it is the key of that position. -/
theorem InStep.position?_eq_some_iff {registry : Registry α} (hstep : registry.InStep)
    {name : String} {index : Nat} :
    registry.position? name = some index ↔ registry.keys[index]? = some name := by
  rw [position?, NameIndex.get?_eq_some_iff hstep.nodup, hstep.pairs,
    List.mk_mem_zipIdx_iff_getElem?]

/-- The registry has the items of the keyed list, and its index their keys. -/
structure Represents (registry : Registry α) (ledger : Ledger α) : Prop where
  inStep : registry.InStep
  items : registry.items = ledger.items
  keys : registry.keys = ledger.keys

/-- One use of a registry. -/
inductive Operation (α ε : Type) where
  | insert (item : α)
  /-- The factory and the configuration may give the item any name. -/
  | create (name : String) (build : String → α) (configure : α → Except ε α)
  | modify (position : Nat) (change : α → α)

namespace Operation

variable [Named α]

/-- The position of what was stored if anything was, or why nothing was. -/
abbrev Answer (ε : Type) := Except (CreateError ε) (Option Nat)

/-- What a registry answers, and the registry that is left. -/
def on (registry : Registry α) : Operation α ε → Answer ε × Registry α
  | insert item =>
      let (stored, next) := registry.insert item
      ((stored.mapError fun taken => .taken taken.name).map some, next)
  | create name build configure =>
      let (stored, next) := registry.create name build configure
      (stored.map some, next)
  | modify position change => (.ok none, registry.modify position change)

/-- What a keyed list answers, and the keyed list that is left.  An item is entered under the name
that it has when it is to be stored, unless this is a key; what is created starts from a name that
is no key either. -/
def book (ledger : Ledger α) : Operation α ε → Answer ε × Ledger α
  | insert item =>
      if Named.name item ∈ ledger.keys then (.error (.taken (Named.name item)), ledger)
      else (.ok (some ledger.length), ledger.enter item)
  | create name build configure =>
      if name ∈ ledger.keys then (.error (.taken name), ledger)
      else
        match configure (build name) with
        | .error cause => (.error (.configuring name cause), ledger)
        | .ok item =>
            if Named.name item ∈ ledger.keys then (.error (.renamed (Named.name item)), ledger)
            else (.ok (some ledger.length), ledger.enter item)
  | modify position change => (.ok none, ledger.amend position change)

/-- The answers to operations one after another, and what is left after them. -/
def run {σ : Type} (step : σ → Operation α ε → Answer ε × σ) (state : σ) :
    List (Operation α ε) → List (Answer ε) × σ
  | [] => ([], state)
  | operation :: rest =>
      ((step state operation).1 :: (run step (step state operation).2 rest).1,
        (run step (step state operation).2 rest).2)

omit [Named α] in
theorem run_append {σ : Type} (step : σ → Operation α ε → Answer ε × σ) (state : σ)
    (before rest : List (Operation α ε)) :
    run step state (before ++ rest) =
      ((run step state before).1 ++ (run step (run step state before).2 rest).1,
        (run step (run step state before).2 rest).2) := by
  induction before generalizing state with
  | nil => rfl
  | cons operation before ih => simp only [List.cons_append, run, ih]

end Operation

namespace Represents

variable {registry : Registry α} {ledger : Ledger α}

theorem empty : ({} : Registry α).Represents [] := ⟨inStep_empty, rfl, rfl⟩

theorem size (hrepresents : registry.Represents ledger) : registry.size = ledger.length := by
  rw [Registry.size, hrepresents.items, Ledger.items, List.length_map]

/-- A keyed list leaves no choice of the registry that stands for it. -/
theorem unique {other : Registry α} (hrepresents : registry.Represents ledger)
    (hother : other.Represents ledger) : registry = other := by
  have hitems : registry.items = other.items := hrepresents.items.trans hother.items.symm
  have hpairs : registry.index.pairs = other.index.pairs := by
    rw [hrepresents.inStep.pairs, hother.inStep.pairs, hrepresents.keys, hother.keys]
  obtain ⟨items, ⟨pairs⟩⟩ := registry
  obtain ⟨others, ⟨rest⟩⟩ := other
  cases hitems
  cases hpairs
  rfl

theorem modify (hrepresents : registry.Represents ledger) (position : Nat) (change : α → α) :
    (registry.modify position change).Represents (ledger.amend position change) where
  inStep := hrepresents.inStep.modify position change
  items := by rw [Ledger.items_amend, ← hrepresents.items, Registry.modify]
  keys := by rw [keys_modify, Ledger.keys_amend, hrepresents.keys]

variable [Named α]

theorem store (hrepresents : registry.Represents ledger) {item : α}
    (hfree : Named.name item ∉ ledger.keys) :
    (registry.store item).Represents (ledger.enter item) where
  inStep := hrepresents.inStep.store (hrepresents.keys ▸ hfree)
  items := by rw [items_store, Ledger.items_enter, hrepresents.items]
  keys := by rw [keys_store, Ledger.keys_enter, hrepresents.keys]

/-- One operation: the registry answers as the keyed list does and goes on standing for it. -/
theorem on (hrepresents : registry.Represents ledger) (operation : Operation α ε) :
    (operation.on registry).1 = (operation.book ledger).1 ∧
      (operation.on registry).2.Represents (operation.book ledger).2 := by
  cases operation with
  | insert item =>
      simp only [Operation.on, Operation.book, insert_eq, hrepresents.keys, hrepresents.size]
      by_cases htaken : Named.name item ∈ ledger.keys
      · simp only [if_pos htaken]
        exact ⟨rfl, hrepresents⟩
      · simp only [if_neg htaken]
        exact ⟨rfl, hrepresents.store htaken⟩
  | create name build configure =>
      simp only [Operation.on, Operation.book, create_eq, hrepresents.keys, hrepresents.size]
      by_cases htaken : name ∈ ledger.keys
      · simp only [if_pos htaken]
        exact ⟨rfl, hrepresents⟩
      · simp only [if_neg htaken]
        cases configure (build name) with
        | error cause => exact ⟨rfl, hrepresents⟩
        | ok item =>
            by_cases hrenamed : Named.name item ∈ ledger.keys
            · simp only [if_pos hrenamed]
              exact ⟨rfl, hrepresents⟩
            · simp only [if_neg hrenamed]
              exact ⟨rfl, hrepresents.store hrenamed⟩
  | modify position change => exact ⟨rfl, hrepresents.modify position change⟩

/-- A run of operations: the registry gives the answers of the keyed list, one by one, and stands
for the keyed list that is left. -/
theorem run (hrepresents : registry.Represents ledger) (operations : List (Operation α ε)) :
    (Operation.run Operation.on registry operations).1 =
        (Operation.run Operation.book ledger operations).1 ∧
      (Operation.run Operation.on registry operations).2.Represents
        (Operation.run Operation.book ledger operations).2 := by
  induction operations generalizing registry ledger with
  | nil => exact ⟨rfl, hrepresents⟩
  | cons operation rest ih =>
      obtain ⟨hanswer, hnext⟩ := hrepresents.on operation
      obtain ⟨hanswers, hfinal⟩ := ih hnext
      exact ⟨congrArg₂ List.cons hanswer hanswers, hfinal⟩

end Represents

end Registry

end TaskScript
