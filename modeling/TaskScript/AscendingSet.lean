/-
Sets as their members in ascending order, each once.  Two items that compare equal need not be
the same item: `insert` keeps the member that is there, `replace` takes the new one.
-/
import TaskScript.Ascending

namespace TaskScript

structure AscendingSet (α : Type) [Ord α] where
  items : List α
  isSorted : Ascending.IsSorted items

namespace AscendingSet

variable {α : Type} [Ord α]

@[ext] theorem ext {left right : AscendingSet α} (hitems : left.items = right.items) :
    left = right := by
  obtain ⟨items, _⟩ := left
  obtain ⟨_, _⟩ := right
  cases hitems
  rfl

instance [DecidableEq α] : DecidableEq (AscendingSet α) := fun left right =>
  decidable_of_iff (left.items = right.items) ⟨ext, congrArg items⟩

instance [Repr α] : Repr (AscendingSet α) where
  reprPrec set := reprPrec set.items

instance : EmptyCollection (AscendingSet α) := ⟨⟨[], .nil⟩⟩

instance : Membership α (AscendingSet α) := ⟨fun set x => x ∈ set.items⟩

instance [DecidableEq α] (x : α) (set : AscendingSet α) : Decidable (x ∈ set) :=
  inferInstanceAs (Decidable (x ∈ set.items))

@[simp] theorem mem_items {x : α} {set : AscendingSet α} : x ∈ set.items ↔ x ∈ set := .rfl

@[simp] theorem items_empty : (∅ : AscendingSet α).items = [] := rfl

@[simp] theorem notMem_empty (x : α) : x ∉ (∅ : AscendingSet α) := List.not_mem_nil

def single (x : α) : AscendingSet α := ⟨[x], List.pairwise_singleton _ _⟩

@[simp] theorem items_single (x : α) : (single x).items = [x] := rfl

@[simp] theorem mem_single {x y : α} : y ∈ single x ↔ y = x := List.mem_singleton

def size (set : AscendingSet α) : Nat := set.items.length

def contains (set : AscendingSet α) (x : α) : Bool := Ascending.contains x set.items

@[simp] theorem contains_eq_true_iff [Std.LawfulEqOrd α] {set : AscendingSet α} {x : α} :
    set.contains x = true ↔ x ∈ set :=
  Ascending.contains_eq_true_iff

/-- The members that an item is not equal to. -/
def erase (set : AscendingSet α) (x : α) : AscendingSet α :=
  ⟨Ascending.erase x set.items, set.isSorted.filter _⟩

@[simp] theorem mem_erase_iff [Std.LawfulEqOrd α] {set : AscendingSet α} {x y : α} :
    y ∈ set.erase x ↔ y ∈ set ∧ y ≠ x := by
  have herase : (set.erase x).items = set.items.filter fun y => compare x y != .eq := rfl
  rw [← mem_items, herase, List.mem_filter, mem_items, bne_iff_ne, ne_eq,
    Std.LawfulEqOrd.compare_eq_iff_eq, ne_comm, ne_eq]

theorem erase_of_notMem [Std.LawfulEqOrd α] {set : AscendingSet α} {x : α} (hnot : x ∉ set) :
    set.erase x = set := by
  refine ext (List.filter_eq_self.mpr fun y hy => ?_)
  rw [bne_iff_ne, ne_eq, Std.LawfulEqOrd.compare_eq_iff_eq]
  rintro rfl
  exact hnot hy

/-- A member is there once. -/
theorem perm_cons_erase [Std.LawfulEqOrd α] {set : AscendingSet α} {x : α} (hmem : x ∈ set) :
    set.items.Perm (x :: (set.erase x).items) := by
  classical
  have hnodup := Ascending.nodup_of_isSorted set.isSorted
  have herase : (set.erase x).items = set.items.erase x := by
    rw [hnodup.erase_eq_filter]
    refine List.filter_congr fun y _ => ?_
    rw [Bool.eq_iff_iff, bne_iff_ne, bne_iff_ne, ne_eq, Std.LawfulEqOrd.compare_eq_iff_eq,
      ne_comm]
  rw [herase]
  exact List.perm_cons_erase hmem

def filter (set : AscendingSet α) (keep : α → Bool) : AscendingSet α :=
  ⟨set.items.filter keep, set.isSorted.filter _⟩

variable [Std.TransOrd α]

def insert (set : AscendingSet α) (x : α) : AscendingSet α :=
  ⟨Ascending.insert x set.items, Ascending.isSorted_insert set.isSorted⟩

def replace (set : AscendingSet α) (x : α) : AscendingSet α :=
  ⟨Ascending.replace x set.items, Ascending.isSorted_replace set.isSorted⟩

/-- The set of the items of a list; of equal items the last one stays. -/
def ofList (items : List α) : AscendingSet α :=
  ⟨Ascending.ofList items, Ascending.isSorted_ofList items⟩

/-- Adds the items of a list; of equal items the first one stays. -/
def extend (set : AscendingSet α) (items : List α) : AscendingSet α :=
  ⟨Ascending.extend set.items items, Ascending.isSorted_extend items set.isSorted⟩

theorem mem_ofList_imp {x : α} {items : List α} (h : x ∈ ofList items) : x ∈ items :=
  Ascending.mem_ofList_imp h

theorem mem_extend_imp {x : α} {set : AscendingSet α} {items : List α} (h : x ∈ set.extend items) :
    x ∈ set ∨ x ∈ items :=
  Ascending.mem_extend_imp h

@[simp] theorem mem_ofList_iff [Std.LawfulEqOrd α] {x : α} {items : List α} :
    x ∈ ofList items ↔ x ∈ items :=
  Ascending.mem_ofList_iff

end AscendingSet

end TaskScript
