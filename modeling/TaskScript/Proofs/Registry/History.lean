/-
What a registry answers after any run of operations.  The key of an item is the name it had at the
moment it was stored, whatever the factory, the configuration and later changes make of the name; a
registry answers by these keys, and what it stored stays where it is.
-/
import TaskScript.Draft
import TaskScript.Proofs.Registry.Ledger

namespace TaskScript.Registry

variable {α ε : Type}

namespace Operation

/-- The item that the operation is to store, as it is at that moment. -/
def offered? : Operation α ε → Option α
  | insert item => some item
  | create name build configure => (configure (build name)).toOption
  | modify .. => none

/-- What the operation makes of the item at a position. -/
def changed (position : Nat) : Operation α ε → α → α
  | modify target change, item => if target = position then change item else item
  | insert _, item | create .., item => item

variable [Named α]

/-- An item that is changed keeps its name. -/
def KeepsName (items : List α) : Operation α ε → Prop
  | modify position change =>
      ∀ item, items[position]? = some item → Named.name (change item) = Named.name item
  | insert _ | create .. => True

/-- No operation renames an item. -/
def KeepNames (registry : Registry α) : List (Operation α ε) → Prop
  | [] => True
  | operation :: rest =>
      operation.KeepsName registry.items ∧ KeepNames (operation.on registry).2 rest

/-- All that an operation can do to a keyed list: enter the item that it offers, whose name is no
key, amend one in place, or fail. -/
inductive Effect (ledger : Ledger α) (operation : Operation α ε) : Prop where
  | enters {item : α} (hfree : Named.name item ∉ ledger.keys)
      (hoffered : operation.offered? = some item)
      (hbook : operation.book ledger = (.ok (some ledger.length), ledger.enter item))
      (hkeep : ∀ position other, operation.changed position other = other)
  | amends {position : Nat} {change : α → α} (hoperation : operation = modify position change)
  | fails {error : CreateError ε} (hbook : operation.book ledger = (.error error, ledger))
      (hkeep : ∀ position other, operation.changed position other = other)

theorem effect (ledger : Ledger α) (operation : Operation α ε) : operation.Effect ledger := by
  cases operation with
  | insert item =>
      by_cases htaken : Named.name item ∈ ledger.keys
      · exact .fails (if_pos htaken) fun _ _ => rfl
      · exact .enters htaken rfl (if_neg htaken) fun _ _ => rfl
  | create name build configure =>
      by_cases htaken : name ∈ ledger.keys
      · exact .fails (if_pos htaken) fun _ _ => rfl
      · cases hconfigure : configure (build name) with
        | error cause =>
            have hbook : (create name build configure).book ledger =
                (.error (.configuring name cause), ledger) := by
              rw [book, if_neg htaken, hconfigure]
            exact .fails hbook fun _ _ => rfl
        | ok item =>
            have hbook : (create name build configure).book ledger =
                if Named.name item ∈ ledger.keys then
                  (.error (.renamed (Named.name item)), ledger)
                else (.ok (some ledger.length), ledger.enter item) := by
              rw [book, if_neg htaken, hconfigure]
            have hoffered : (create name build configure).offered? = some item := by
              rw [offered?, hconfigure]
              rfl
            by_cases hrenamed : Named.name item ∈ ledger.keys
            · exact .fails (hbook.trans (if_pos hrenamed)) fun _ _ => rfl
            · exact .enters hrenamed hoffered (hbook.trans (if_neg hrenamed)) fun _ _ => rfl
  | modify position change => exact .amends rfl

/-- What is at a position stays there, up to what the operation makes of it. -/
theorem getElem?_items_book {ledger : Ledger α} {operation : Operation α ε} {position : Nat}
    {item : α} (hitem : ledger.items[position]? = some item) :
    (operation.book ledger).2.items[position]? = some (operation.changed position item) := by
  cases operation.effect ledger with
  | enters _ _ hbook hkeep =>
      obtain ⟨hlt, _⟩ := List.getElem?_eq_some_iff.mp hitem
      rw [hbook, hkeep, Ledger.items_enter, List.getElem?_append_left hlt, hitem]
  | @amends target change hoperation =>
      subst hoperation
      simp only [book, changed]
      rw [Ledger.items_amend, List.getElem?_modify, hitem]
      by_cases h : target = position <;> simp [h]
  | fails hbook hkeep => rw [hbook, hkeep, hitem]

theorem getElem?_items_run {ledger : Ledger α} {operations : List (Operation α ε)} {position : Nat}
    {item : α} (hitem : ledger.items[position]? = some item) :
    (run book ledger operations).2.items[position]? =
      some (operations.foldl (fun item operation => operation.changed position item) item) := by
  induction operations generalizing ledger item with
  | nil => exact hitem
  | cons operation rest ih => exact ih (getElem?_items_book hitem)

theorem keys_prefix_book (ledger : Ledger α) (operation : Operation α ε) :
    ledger.keys <+: (operation.book ledger).2.keys := by
  cases operation.effect ledger with
  | enters _ _ hbook _ =>
      rw [hbook, Ledger.keys_enter]
      exact List.prefix_append ..
  | amends hoperation =>
      subst hoperation
      simp [book]
  | fails hbook _ => simp [hbook]

theorem keys_prefix_run (ledger : Ledger α) (operations : List (Operation α ε)) :
    ledger.keys <+: (run book ledger operations).2.keys := by
  induction operations generalizing ledger with
  | nil => exact List.prefix_rfl
  | cons operation rest ih => exact (keys_prefix_book ledger operation).trans (ih _)

theorem map_name_book {ledger : Ledger α} {operation : Operation α ε}
    (hkeeps : operation.KeepsName ledger.items)
    (hnames : ledger.items.map Named.name = ledger.keys) :
    (operation.book ledger).2.items.map Named.name = (operation.book ledger).2.keys := by
  cases operation.effect ledger with
  | enters _ _ hbook _ => simp [hbook, hnames]
  | @amends position change hoperation =>
      subst hoperation
      simp only [book, Ledger.keys_amend, Ledger.items_amend, ← hnames]
      apply List.ext_getElem?
      intro index
      rw [List.getElem?_map, List.getElem?_map, List.getElem?_modify]
      cases hitem : ledger.items[index]? with
      | none => rfl
      | some item =>
          by_cases htarget : position = index
          · subst htarget
            simp [hkeeps item hitem]
          · simp [htarget]
  | fails hbook _ => rw [hbook, hnames]

theorem map_name_run {registry : Registry α} {ledger : Ledger α}
    {operations : List (Operation α ε)} (hrepresents : registry.Represents ledger)
    (hkeep : KeepNames registry operations) (hnames : ledger.items.map Named.name = ledger.keys) :
    (run book ledger operations).2.items.map Named.name =
      (run book ledger operations).2.keys := by
  induction operations generalizing registry ledger with
  | nil => exact hnames
  | cons operation rest ih =>
      have hitems := hrepresents.items ▸ hkeep.1
      exact ih (hrepresents.on operation).2 hkeep.2 (map_name_book hitems hnames)

end Operation

section Named

variable [Named α]

/-- An operation that stores something stores the item that it offers, at the end and under the
name that it has; the other names lead where they led. -/
structure Stores (registry next : Registry α) (item : α) (position : Nat) : Prop where
  atEnd : position = registry.size
  items : next.items = registry.items ++ [item]
  index : ∀ name, next.position? name =
    if name = Named.name item then some position else registry.position? name

theorem stores_store (registry : Registry α) (item : α) :
    registry.Stores (registry.store item) item registry.size where
  atEnd := rfl
  items := items_store ..
  index _ := NameIndex.get?_insert ..

/-- The registry answers by the keys of the list: a key leads to the item at its position, and a
name that is no key is free. -/
structure AnswersBy (ε : Type) (registry : Registry α) (ledger : Ledger α) : Prop where
  size : registry.size = ledger.length
  nodup : ledger.keys.Nodup
  position : ∀ name index, registry.position? name = some index ↔ ledger.keys[index]? = some name
  contains : ∀ name, registry.contains name = true ↔
    ∃ index, index < registry.size ∧ ledger.keys[index]? = some name
  present : ∀ index, index < registry.size → ∃ item, registry.at? index = some item
  get : ∀ name item, registry.get? name = some item ↔
    ∃ index, ledger.keys[index]? = some name ∧ registry.at? index = some item
  insert : ∀ item, (∃ position, (registry.insert item).1 = .ok position) ↔
    Named.name item ∉ ledger.keys
  create : ∀ name build, ∀ configure : α → Except ε α,
    (∃ position, (registry.create name build configure).1 = .ok position) ↔
      name ∉ ledger.keys ∧ ∃ item, configure (build name) = .ok item ∧ Named.name item ∉ ledger.keys
  stores : ∀ operation : Operation α ε, ∀ position,
    (operation.on registry).1 = .ok (some position) →
      ∃ item, operation.offered? = some item ∧
        registry.Stores (operation.on registry).2 item position

theorem insert_eq_ok_iff {registry : Registry α} {item : α} {position : Nat} :
    (registry.insert item).1 = .ok position ↔
      Named.name item ∉ registry.keys ∧ position = registry.size := by
  rw [insert_eq]
  by_cases htaken : Named.name item ∈ registry.keys
  · simp [htaken]
  · simp [htaken, eq_comm]

theorem create_eq_ok_iff {registry : Registry α} {name : String} {build : String → α}
    {configure : α → Except ε α} {position : Nat} :
    (registry.create name build configure).1 = .ok position ↔
      name ∉ registry.keys ∧ (∃ item, configure (build name) = .ok item ∧
        Named.name item ∉ registry.keys) ∧ position = registry.size := by
  rw [create_eq]
  by_cases htaken : name ∈ registry.keys
  · simp [htaken]
  · cases configure (build name) with
    | error cause => simp [htaken]
    | ok item =>
        by_cases hrenamed : Named.name item ∈ registry.keys <;> simp [htaken, hrenamed, eq_comm]

namespace Represents

variable {registry : Registry α} {ledger : Ledger α}

/-- An operation that fails leaves the registry as it was. -/
theorem on_snd_of_error (hrepresents : registry.Represents ledger) {operation : Operation α ε}
    {error : CreateError ε} (hfails : (operation.on registry).1 = .error error) :
    (operation.on registry).2 = registry := by
  obtain ⟨hanswer, hnext⟩ := hrepresents.on operation
  rw [hanswer] at hfails
  cases operation.effect ledger with
  | enters _ _ hbook _ => rw [hbook] at hfails; cases hfails
  | amends hoperation => subst hoperation; cases hfails
  | fails hbook _ =>
      rw [hbook] at hnext
      exact hnext.unique hrepresents

theorem stores_on (hrepresents : registry.Represents ledger) {operation : Operation α ε}
    {position : Nat} (hstores : (operation.on registry).1 = .ok (some position)) :
    ∃ item, operation.offered? = some item ∧
      registry.Stores (operation.on registry).2 item position := by
  obtain ⟨hanswer, hnext⟩ := hrepresents.on operation
  rw [hanswer] at hstores
  cases operation.effect ledger with
  | @enters item hfree hoffered hbook _ =>
      rw [hbook] at hnext hstores
      cases hstores
      rw [hnext.unique (hrepresents.store hfree), ← hrepresents.size]
      exact ⟨item, hoffered, stores_store registry item⟩
  | amends hoperation => subst hoperation; cases hstores
  | fails hbook _ => rw [hbook] at hstores; cases hstores

theorem answersBy (ε : Type) (hrepresents : registry.Represents ledger) :
    registry.AnswersBy ε ledger where
  size := hrepresents.size
  nodup := hrepresents.keys ▸ hrepresents.inStep.nodup
  position _ _ := by rw [hrepresents.inStep.position?_eq_some_iff, hrepresents.keys]
  contains name := by
    rw [contains_eq_true_iff, hrepresents.keys, List.mem_iff_getElem?]
    refine exists_congr fun index => (and_iff_right_of_imp fun hname => ?_).symm
    rw [hrepresents.size, ← Ledger.length_keys]
    exact (List.getElem?_eq_some_iff.mp hname).1
  present index hindex := ⟨_, List.getElem?_eq_getElem hindex⟩
  get name item := by
    simp only [get?, Option.bind_eq_some_iff, hrepresents.inStep.position?_eq_some_iff,
      hrepresents.keys]
  insert item := by simp [insert_eq_ok_iff, hrepresents.keys]
  create name build configure := by simp [create_eq_ok_iff, hrepresents.keys]
  stores _ _ := hrepresents.stores_on

end Represents

theorem get?_eq_some_iff_of_map_name {registry : Registry α} (hstep : registry.InStep)
    (hnames : registry.items.map Named.name = registry.keys) {name : String} {item : α} :
    registry.get? name = some item ↔ item ∈ registry.items ∧ Named.name item = name := by
  simp only [get?, Option.bind_eq_some_iff, hstep.position?_eq_some_iff, ← hnames, at?,
    List.getElem?_map, Option.map_eq_some_iff]
  constructor
  · rintro ⟨index, ⟨other, hother, rfl⟩, hitem⟩
    obtain rfl := Option.some.inj (hother.symm.trans hitem)
    exact ⟨List.mem_of_getElem? hitem, rfl⟩
  · rintro ⟨hitem, rfl⟩
    obtain ⟨index, hindex⟩ := List.mem_iff_getElem?.mp hitem
    exact ⟨index, ⟨item, hindex, rfl⟩, hindex⟩

omit [Named α] in
theorem modify_of_at?_eq_none {registry : Registry α} {position : Nat} (change : α → α)
    (hnone : registry.at? position = none) : registry.modify position change = registry := by
  rw [modify, List.modify_eq_self (List.getElem?_eq_none_iff.mp hnone)]

/-- The registry after a run of operations. -/
def after (operations : List (Operation α ε)) : Registry α :=
  (Operation.run Operation.on {} operations).2

/-- The keyed list after a run of operations: the items, and the name that each of them had when it
was stored. -/
def booked (operations : List (Operation α ε)) : Ledger α :=
  (Operation.run Operation.book [] operations).2

theorem represents_booked (operations : List (Operation α ε)) :
    (after operations).Represents (booked operations) :=
  (Represents.empty.run operations).2

theorem booked_append (before rest : List (Operation α ε)) :
    booked (before ++ rest) = (Operation.run Operation.book (booked before) rest).2 := by
  rw [booked, Operation.run_append]
  rfl

theorem at?_after_append {before rest : List (Operation α ε)} {position : Nat} {item : α}
    (hitem : (after before).at? position = some item) :
    (after (before ++ rest)).at? position =
      some (rest.foldl (fun item operation => operation.changed position item) item) := by
  rw [at?, (represents_booked _).items] at hitem ⊢
  rw [booked_append]
  exact Operation.getElem?_items_run hitem

/-- Over any run a registry gives the answers of the keyed list that has the names in which items
were stored, and stands for this list afterwards.  An operation that fails, or that finds no item to
change, changes nothing; an item stays at its position, under its key, and changes only where it is
changed in place.  If no operation renames an item, the names of the items are all different and a
name leads to the item of that name. -/
theorem answers_by_stored_names (operations : List (Operation α ε)) :
    (Operation.run Operation.on {} operations).1 = (Operation.run Operation.book [] operations).1 ∧
    (after operations).Represents (booked operations) ∧
    (after operations).AnswersBy ε (booked operations) ∧
    (∀ operation : Operation α ε, ∀ error, (operation.on (after operations)).1 = .error error →
      (operation.on (after operations)).2 = after operations) ∧
    (∀ position change, (after operations).at? position = none →
      (after operations).modify position change = after operations) ∧
    (∀ more, (booked operations).keys <+: (booked (operations ++ more)).keys ∧
      ∀ position item, (after operations).at? position = some item →
        (after (operations ++ more)).at? position =
          some (more.foldl (fun item operation => operation.changed position item) item)) ∧
    (Operation.KeepNames {} operations →
      ((after operations).items.map Named.name).Nodup ∧
      ∀ name item, (after operations).get? name = some item ↔
        item ∈ (after operations).items ∧ Named.name item = name) := by
  have hrepresents := represents_booked operations
  refine ⟨(Represents.empty.run operations).1, hrepresents, hrepresents.answersBy ε,
    fun _ _ => hrepresents.on_snd_of_error, fun _ => modify_of_at?_eq_none,
    fun more => ⟨?_, fun _ _ => at?_after_append⟩, fun hkeep => ?_⟩
  · rw [booked_append]
    exact Operation.keys_prefix_run ..
  · have hnames : (after operations).items.map Named.name = (after operations).keys := by
      rw [hrepresents.items, hrepresents.keys]
      exact Operation.map_name_run Represents.empty hkeep rfl
    exact ⟨hnames ▸ hrepresents.inStep.nodup,
      fun _ _ => get?_eq_some_iff_of_map_name hrepresents.inStep hnames⟩

/-- The factory renames `y` to `z`, the first item is renamed to `w` afterwards, and of three
further operations two fail: `x` is still a key, and a configuration goes wrong. -/
def renamed : List (Operation Variable String) :=
  [.insert ⟨"x", true⟩, .create "y" (fun _ => ⟨"z", true⟩) .ok,
    .modify 0 fun slot => { slot with name := "w" }, .insert ⟨"x", false⟩,
    .create "v" (⟨·, true⟩) fun _ => .error "refused", .insert ⟨"w", false⟩]

/-- The change to the first item leaves its name alone. -/
def invalidated : List (Operation Variable String) :=
  [.insert ⟨"x", true⟩, .modify 0 fun slot => { slot with isValid := false },
    .insert ⟨"y", true⟩]

theorem answers_by_stored_names_renamed :
    (Operation.run Operation.on {} renamed).1 =
        [.ok (some 0), .ok (some 1), .ok none, .error (.taken "x"),
          .error (.configuring "v" "refused"), .ok (some 2)] ∧
      (after renamed).Represents
        [⟨"x", ⟨"w", true⟩⟩, ⟨"z", ⟨"z", true⟩⟩, ⟨"w", ⟨"w", false⟩⟩] ∧
      (after renamed).AnswersBy String
        [⟨"x", ⟨"w", true⟩⟩, ⟨"z", ⟨"z", true⟩⟩, ⟨"w", ⟨"w", false⟩⟩] ∧
      (after renamed).at? 0 = some ⟨"w", true⟩ ∧
      Operation.KeepNames {} invalidated ∧
      (after invalidated).get? "x" = some ⟨"x", false⟩ := by
  have hbooked : booked renamed =
      [⟨"x", ⟨"w", true⟩⟩, ⟨"z", ⟨"z", true⟩⟩, ⟨"w", ⟨"w", false⟩⟩] := by decide +kernel
  have hfirst : (after (renamed.take 2)).at? 0 = some ⟨"x", true⟩ := by decide +kernel
  have hkeep : Operation.KeepNames {} invalidated := by
    refine ⟨trivial, ?_, trivial, trivial⟩
    intro slot _
    rfl
  have hitems : (after invalidated).items = [⟨"x", false⟩, ⟨"y", true⟩] := by decide +kernel
  obtain ⟨hanswers, hrepresents, hby, _⟩ := answers_by_stored_names renamed
  obtain ⟨_, _, _, _, _, hstays, _⟩ := answers_by_stored_names (renamed.take 2)
  obtain ⟨_, _, _, _, _, _, hnamed⟩ := answers_by_stored_names invalidated
  refine ⟨hanswers.trans (by decide +kernel), hbooked ▸ hrepresents, hbooked ▸ hby,
    (hstays (renamed.drop 2)).2 0 _ hfirst, hkeep, ?_⟩
  exact ((hnamed hkeep).2 "x" ⟨"x", false⟩).mpr ⟨by simp [hitems], rfl⟩

end Named

end TaskScript.Registry
