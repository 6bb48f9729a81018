/-
Lists with at least one element, for answers that carry every finding and must
not carry none.
-/
namespace TaskScript

structure NonEmpty (α : Type) where
  head : α
  tail : List α := []
  deriving DecidableEq, Repr

namespace NonEmpty

variable {α β : Type}

def toList (items : NonEmpty α) : List α := items.head :: items.tail

def ofList? : List α → Option (NonEmpty α)
  | [] => none
  | head :: tail => some ⟨head, tail⟩

def length (items : NonEmpty α) : Nat := items.toList.length

/-- Adds an item at the end. -/
def push (items : NonEmpty α) (item : α) : NonEmpty α :=
  { items with tail := items.tail ++ [item] }

def map (f : α → β) (items : NonEmpty α) : NonEmpty β :=
  ⟨f items.head, items.tail.map f⟩

@[simp] theorem toList_push (items : NonEmpty α) (item : α) :
    (items.push item).toList = items.toList ++ [item] := rfl

@[simp] theorem toList_map (f : α → β) (items : NonEmpty α) :
    (items.map f).toList = items.toList.map f := rfl

theorem ofList?_eq_none_iff {list : List α} : ofList? list = none ↔ list = [] := by
  cases list <;> simp [ofList?]

theorem ofList?_eq_some_iff {list : List α} {items : NonEmpty α} :
    ofList? list = some items ↔ list = items.toList := by
  cases list with
  | nil => simp [ofList?, toList]
  | cons head tail =>
      obtain ⟨h, t⟩ := items
      simp [ofList?, toList]

theorem exists_eq_toList_of_ne_nil {list : List α} (hne : list ≠ []) :
    ∃ items : NonEmpty α, list = items.toList := by
  cases list with
  | nil => exact absurd rfl hne
  | cons head tail => exact ⟨⟨head, tail⟩, rfl⟩

end NonEmpty

end TaskScript
