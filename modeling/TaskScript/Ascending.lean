/-
Ascending lists without repetition, used as sets.  Two items that compare equal
need not be the same item, so it matters which one stays: `insert` keeps the item
that is there, `replace` takes the new one.
-/
namespace TaskScript.Ascending

variable {α : Type} [Ord α]

/-- Adds `x` unless an item equal to it is present. -/
def insert (x : α) : List α → List α
  | [] => [x]
  | y :: rest =>
      match compare x y with
      | .lt => x :: y :: rest
      | .eq => y :: rest
      | .gt => y :: insert x rest

/-- Adds `x`, in the place of an item equal to it if one is present. -/
def replace (x : α) : List α → List α
  | [] => [x]
  | y :: rest =>
      match compare x y with
      | .lt => x :: y :: rest
      | .eq => x :: rest
      | .gt => y :: replace x rest

def contains (x : α) (items : List α) : Bool :=
  items.any fun y => compare x y == .eq

def erase (x : α) (items : List α) : List α :=
  items.filter fun y => compare x y != .eq

/-- The set of the items of a list; of equal items the last one stays. -/
def ofList (items : List α) : List α :=
  items.foldl (fun set x => replace x set) []

/-- Adds the items of a list; of equal items the first one stays. -/
def extend (set items : List α) : List α :=
  items.foldl (fun set x => insert x set) set

theorem mem_insert_imp {x y : α} {items : List α} (h : y ∈ insert x items) :
    y = x ∨ y ∈ items := by
  induction items with
  | nil => simpa [insert] using h
  | cons head rest ih =>
      rw [insert] at h
      split at h
      · simpa using h
      · exact .inr h
      · rcases List.mem_cons.1 h with rfl | h
        · exact .inr List.mem_cons_self
        · exact (ih h).imp_right (List.mem_cons_of_mem _)

theorem mem_replace_imp {x y : α} {items : List α} (h : y ∈ replace x items) :
    y = x ∨ y ∈ items := by
  induction items with
  | nil => simpa [replace] using h
  | cons head rest ih =>
      rw [replace] at h
      split at h
      · simpa using h
      · exact (List.mem_cons.1 h).imp_right (List.mem_cons_of_mem _)
      · rcases List.mem_cons.1 h with rfl | h
        · exact .inr List.mem_cons_self
        · exact (ih h).imp_right (List.mem_cons_of_mem _)

@[simp] theorem mem_insert_iff [Std.LawfulEqOrd α] {x y : α} {items : List α} :
    y ∈ insert x items ↔ y = x ∨ y ∈ items := by
  induction items with
  | nil => simp [insert]
  | cons head rest ih =>
      rw [insert]
      split
      · simp
      · rename_i h
        obtain rfl := Std.LawfulEqOrd.eq_of_compare h
        simp
      · simp [ih, or_left_comm]

@[simp] theorem contains_eq_true_iff [Std.LawfulEqOrd α] {x : α} {items : List α} :
    contains x items = true ↔ x ∈ items := by
  simp [contains]

/-- Each item is less than all that come after it. -/
def IsSorted (items : List α) : Prop := items.Pairwise fun x y => compare x y = .lt

theorem nodup_of_isSorted [Std.ReflOrd α] {items : List α} (hsorted : IsSorted items) :
    items.Nodup := by
  refine hsorted.imp fun hlt h => ?_
  subst h
  rw [Std.ReflOrd.compare_self] at hlt
  cases hlt

theorem isSorted_cons_of_lt [Std.TransOrd α] {x head : α} {rest : List α}
    (hlt : compare x head = .lt) (hsorted : IsSorted (head :: rest)) :
    IsSorted (x :: head :: rest) := by
  refine List.pairwise_cons.2 ⟨?_, hsorted⟩
  intro y hy
  rcases List.mem_cons.1 hy with rfl | hy
  · exact hlt
  · exact Std.TransCmp.lt_trans hlt ((List.pairwise_cons.1 hsorted).1 y hy)

theorem isSorted_insert [Std.TransOrd α] {x : α} {items : List α} (hsorted : IsSorted items) :
    IsSorted (insert x items) := by
  induction items with
  | nil => simp [insert, IsSorted]
  | cons head rest ih =>
      obtain ⟨hhead, hrest⟩ := List.pairwise_cons.1 hsorted
      rw [insert]
      split
      · rename_i hlt
        exact isSorted_cons_of_lt hlt hsorted
      · exact hsorted
      · rename_i hgt
        refine List.pairwise_cons.2 ⟨?_, ih hrest⟩
        intro y hy
        rcases mem_insert_imp hy with rfl | hy
        · exact Std.OrientedCmp.gt_iff_lt.1 hgt
        · exact hhead y hy

theorem isSorted_replace [Std.TransOrd α] {x : α} {items : List α} (hsorted : IsSorted items) :
    IsSorted (replace x items) := by
  induction items with
  | nil => simp [replace, IsSorted]
  | cons head rest ih =>
      obtain ⟨hhead, hrest⟩ := List.pairwise_cons.1 hsorted
      rw [replace]
      split
      · rename_i hlt
        exact isSorted_cons_of_lt hlt hsorted
      · rename_i heq
        refine List.pairwise_cons.2 ⟨?_, hrest⟩
        intro y hy
        exact (Std.TransCmp.congr_left heq).trans (hhead y hy)
      · rename_i hgt
        refine List.pairwise_cons.2 ⟨?_, ih hrest⟩
        intro y hy
        rcases mem_replace_imp hy with rfl | hy
        · exact Std.OrientedCmp.gt_iff_lt.1 hgt
        · exact hhead y hy

theorem isSorted_ofList [Std.TransOrd α] (items : List α) : IsSorted (ofList items) :=
  List.foldlRecOn items _ List.Pairwise.nil fun _ hset _ _ => isSorted_replace hset

theorem isSorted_extend [Std.TransOrd α] {set : List α} (items : List α) (hsorted : IsSorted set) :
    IsSorted (extend set items) :=
  List.foldlRecOn items _ hsorted fun _ hset _ _ => isSorted_insert hset

theorem contains_cons {x y : α} {items : List α} :
    contains x (y :: items) = (compare x y == .eq || contains x items) := rfl

theorem contains_insert [Std.TransOrd α] {x y : α} {items : List α} :
    contains y (insert x items) = (compare y x == .eq || contains y items) := by
  induction items with
  | nil => rfl
  | cons head rest ih =>
      rw [insert]
      split
      · rfl
      · rename_i h
        have hsame : compare y x = compare y head := Std.TransCmp.congr_right h
        simp [contains_cons, hsame]
      · simp [contains_cons, ih, Bool.or_left_comm]

theorem contains_replace [Std.TransOrd α] {x y : α} {items : List α} :
    contains y (replace x items) = (compare y x == .eq || contains y items) := by
  induction items with
  | nil => rfl
  | cons head rest ih =>
      rw [replace]
      split
      · rfl
      · rename_i h
        have hsame : compare y x = compare y head := Std.TransCmp.congr_right h
        simp [contains_cons, hsame]
      · simp [contains_cons, ih, Bool.or_left_comm]

section Fold

variable {step : List α → α → List α} {set items : List α} {x : α}

omit [Ord α] in
theorem mem_foldl_imp (hstep : ∀ set y, x ∈ step set y → x = y ∨ x ∈ set)
    (h : x ∈ items.foldl step set) : x ∈ set ∨ x ∈ items := by
  induction items generalizing set with
  | nil => exact .inl h
  | cons head rest ih =>
      rcases ih h with h | h
      · rcases hstep set head h with rfl | h
        · exact .inr List.mem_cons_self
        · exact .inl h
      · exact .inr (List.mem_cons_of_mem _ h)

theorem contains_foldl
    (hstep : ∀ set y, contains x (step set y) = (compare x y == .eq || contains x set)) :
    contains x (items.foldl step set) = (contains x set || contains x items) := by
  induction items generalizing set with
  | nil => simp [contains]
  | cons head rest ih =>
      rw [List.foldl_cons, ih, hstep, contains_cons, Bool.or_comm (compare x head == .eq),
        Bool.or_assoc]

end Fold

theorem mem_ofList_imp {x : α} {items : List α} (h : x ∈ ofList items) : x ∈ items := by
  simpa using mem_foldl_imp (fun _ _ => mem_replace_imp) h

theorem mem_extend_imp {x : α} {set items : List α} (h : x ∈ extend set items) :
    x ∈ set ∨ x ∈ items :=
  mem_foldl_imp (fun _ _ => mem_insert_imp) h

theorem contains_ofList [Std.TransOrd α] {x : α} {items : List α} :
    contains x (ofList items) = contains x items :=
  contains_foldl fun _ _ => contains_replace

theorem contains_extend [Std.TransOrd α] {x : α} {set items : List α} :
    contains x (extend set items) = (contains x set || contains x items) :=
  contains_foldl fun _ _ => contains_insert

@[simp] theorem mem_ofList_iff [Std.TransOrd α] [Std.LawfulEqOrd α] {x : α} {items : List α} :
    x ∈ ofList items ↔ x ∈ items := by
  rw [← contains_eq_true_iff, contains_ofList, contains_eq_true_iff]

example : ofList [3, 1, 2, 1] = [1, 2, 3] := by decide

end TaskScript.Ascending
