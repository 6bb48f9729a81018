/-
Registries: items in the order they were stored, and an index that leads from the name an
item had then to its position.  Names of stored items may change afterwards; the index
does not follow them.  Nothing is ever removed or moved, so a position stays good for the
life of the registry.
-/
namespace TaskScript

/-- Items that carry a name. -/
class Named (α : Type) where
  name : α → String

/-- The name leads to an item of the registry already. -/
structure NameTaken where
  name : String
  deriving DecidableEq, Repr

/-- Positions by name.  Of several positions that were put under a name the last one
counts. -/
structure NameIndex where
  pairs : List (String × Nat) := []
  deriving DecidableEq, Repr

namespace NameIndex

def names (index : NameIndex) : List String := index.pairs.map Prod.fst

def positions (index : NameIndex) : List Nat := index.pairs.map Prod.snd

def get? (index : NameIndex) (name : String) : Option Nat := index.pairs.reverse.lookup name

def contains (index : NameIndex) (name : String) : Bool := (index.get? name).isSome

def insert (index : NameIndex) (name : String) (position : Nat) : NameIndex :=
  ⟨index.pairs ++ [(name, position)]⟩

@[simp] theorem names_insert (index : NameIndex) (name : String) (position : Nat) :
    (index.insert name position).names = index.names ++ [name] := by
  simp [names, insert]

@[simp] theorem positions_insert (index : NameIndex) (name : String) (position : Nat) :
    (index.insert name position).positions = index.positions ++ [position] := by
  simp [positions, insert]

theorem get?_insert (index : NameIndex) (name other : String) (position : Nat) :
    (index.insert name position).get? other =
      if other = name then some position else index.get? other := by
  simp only [get?, insert, List.reverse_append, List.reverse_singleton, List.singleton_append,
    List.lookup_cons]
  by_cases h : other = name
  · simp [h]
  · simp [h, beq_eq_false_iff_ne.mpr h]

theorem contains_eq_true_iff {index : NameIndex} {name : String} :
    index.contains name = true ↔ name ∈ index.names := by
  simp [contains, get?, names, List.lookup_isSome_iff]

end NameIndex

structure Registry (α : Type) where
  items : List α := []
  index : NameIndex := {}
  deriving DecidableEq, Repr

namespace Registry

variable {α ε : Type}

def size (registry : Registry α) : Nat := registry.items.length

/-- The names that lead to a position, in the order they were put into the index. -/
def keys (registry : Registry α) : List String := registry.index.names

def contains (registry : Registry α) (name : String) : Bool := registry.index.contains name

/-- The position of the item stored under `name`. -/
def position? (registry : Registry α) (name : String) : Option Nat := registry.index.get? name

def at? (registry : Registry α) (position : Nat) : Option α := registry.items[position]?

def get? (registry : Registry α) (name : String) : Option α :=
  (registry.position? name).bind registry.at?

def ensureFree (registry : Registry α) (name : String) : Except NameTaken Unit :=
  if registry.contains name then .error ⟨name⟩ else .ok ()

/-- Puts the position after the last one into the index and the item there. -/
def store [Named α] (registry : Registry α) (item : α) : Registry α where
  index := registry.index.insert (Named.name item) registry.size
  items := registry.items ++ [item]

/-- Stores an item at the end under its name, which must be free; and the registry that
this leaves. -/
def insert [Named α] (registry : Registry α) (item : α) : Except NameTaken Nat × Registry α :=
  match registry.ensureFree (Named.name item) with
  | .error taken => (.error taken, registry)
  | .ok () => (.ok registry.size, registry.store item)

/-- Why `create` stored nothing. -/
inductive CreateError (ε : Type) where
  /-- The name was taken, so nothing was built. -/
  | taken (name : String)
  /-- The item was built, and configuring it failed. -/
  | configuring (name : String) (cause : ε)
  /-- Configuring gave the item a name that is taken. -/
  | renamed (name : String)
  deriving DecidableEq, Repr

/-- Whether the item was built and its configuration begun. -/
def CreateError.wasBuilt : CreateError ε → Bool
  | .taken _ => false
  | .configuring .. | .renamed _ => true

/-- Builds an item from a free name, configures it and stores it under the name it
has then.  Configuring may do more than change the item. -/
def createM {m : Type → Type} [Monad m] [Named α] (registry : Registry α) (name : String)
    (build : String → α) (configure : α → m (Except ε α)) :
    m (Except (CreateError ε) Nat × Registry α) :=
  match registry.ensureFree name with
  | .error taken => return (.error (.taken taken.name), registry)
  | .ok () => do
      match ← configure (build name) with
      | .error cause => return (.error (.configuring name cause), registry)
      | .ok item =>
          let (stored, registry) := registry.insert item
          return (stored.mapError fun taken => .renamed taken.name, registry)

/-- Creates an item whose configuration does nothing else. -/
def create [Named α] (registry : Registry α) (name : String) (build : String → α)
    (configure : α → Except ε α) : Except (CreateError ε) Nat × Registry α :=
  Id.run (registry.createM name build fun item => pure (configure item))

/-- Changes the item at a position in place; the index stays. -/
def modify (registry : Registry α) (position : Nat) (change : α → α) : Registry α :=
  { registry with items := registry.items.modify position change }

/-- The items in this order, each under its name. -/
def ofItems [Named α] (items : List α) : Registry α where
  items
  index := ⟨(items.map Named.name).zipIdx⟩

theorem contains_eq_true_iff {registry : Registry α} {name : String} :
    registry.contains name = true ↔ name ∈ registry.keys :=
  NameIndex.contains_eq_true_iff

theorem ensureFree_eq (registry : Registry α) (name : String) :
    registry.ensureFree name = if name ∈ registry.keys then .error ⟨name⟩ else .ok () := by
  unfold ensureFree
  simp only [contains_eq_true_iff]

@[simp] theorem keys_empty : ({} : Registry α).keys = [] := rfl

@[simp] theorem keys_modify (registry : Registry α) (position : Nat) (change : α → α) :
    (registry.modify position change).keys = registry.keys := rfl

section Named

variable [Named α]

@[simp] theorem keys_store (registry : Registry α) (item : α) :
    (registry.store item).keys = registry.keys ++ [Named.name item] :=
  NameIndex.names_insert ..

@[simp] theorem items_store (registry : Registry α) (item : α) :
    (registry.store item).items = registry.items ++ [item] := rfl

@[simp] theorem items_ofItems (items : List α) : (ofItems items).items = items := rfl

theorem insert_eq (registry : Registry α) (item : α) :
    registry.insert item =
      if Named.name item ∈ registry.keys then (.error ⟨Named.name item⟩, registry)
      else (.ok registry.size, registry.store item) := by
  rw [insert, ensureFree_eq]
  by_cases htaken : Named.name item ∈ registry.keys
  · simp only [if_pos htaken]
  · simp only [if_neg htaken]

theorem createM_eq {m : Type → Type} [Monad m] (registry : Registry α) (name : String)
    (build : String → α) (configure : α → m (Except ε α)) :
    registry.createM name build configure =
      if name ∈ registry.keys then pure (.error (.taken name), registry)
      else do
        match ← configure (build name) with
        | .error cause => return (.error (.configuring name cause), registry)
        | .ok item =>
            return if Named.name item ∈ registry.keys then
              (.error (.renamed (Named.name item)), registry)
            else (.ok registry.size, registry.store item) := by
  rw [createM, ensureFree_eq]
  by_cases htaken : name ∈ registry.keys
  · simp only [if_pos htaken]
  · simp only [if_neg htaken]
    apply bind_congr
    intro configured
    cases configured with
    | error cause => rfl
    | ok item =>
        dsimp only
        rw [insert_eq]
        by_cases hrenamed : Named.name item ∈ registry.keys
        · simp only [if_pos hrenamed]
          rfl
        · simp only [if_neg hrenamed]
          rfl

theorem create_eq (registry : Registry α) (name : String) (build : String → α)
    (configure : α → Except ε α) :
    registry.create name build configure =
      if name ∈ registry.keys then (.error (.taken name), registry)
      else
        match configure (build name) with
        | .error cause => (.error (.configuring name cause), registry)
        | .ok item =>
            if Named.name item ∈ registry.keys then (.error (.renamed (Named.name item)), registry)
            else (.ok registry.size, registry.store item) := by
  rw [create, createM_eq]
  by_cases htaken : name ∈ registry.keys
  · rw [if_pos htaken, if_pos htaken]
    rfl
  · rw [if_neg htaken, if_neg htaken]
    cases configure (build name) <;> rfl

end Named

end Registry

/-- Items in the order they were stored, under no names. -/
structure Shelf (α : Type) where
  items : List α := []
  deriving DecidableEq, Repr

namespace Shelf

variable {α : Type}

def push (shelf : Shelf α) (item : α) : Nat × Shelf α :=
  (shelf.items.length, ⟨shelf.items ++ [item]⟩)

def at? (shelf : Shelf α) (position : Nat) : Option α := shelf.items[position]?

def size (shelf : Shelf α) : Nat := shelf.items.length

end Shelf

end TaskScript
