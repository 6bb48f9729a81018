/-
Fields that are assigned once.  A field starts unassigned, keeps the first value it
is given, and refuses every later one.  The label is part of the type, so every
error can name the field.
-/
namespace TaskScript

/-- A field with this label was read before it was assigned. -/
structure Unassigned where
  field : String
  deriving DecidableEq, Repr

def Unassigned.message (error : Unassigned) : String :=
  s!"Field '{error.field}' was read before it was assigned"

/-- An answer that needs fields to be assigned. -/
abbrev Reading (α : Type) := Except Unassigned α

/-- A field with this label was assigned a second time. -/
structure Reassigned where
  field : String
  deriving DecidableEq, Repr

def Reassigned.message (error : Reassigned) : String :=
  s!"Field '{error.field}' has already been assigned"

structure Once (label : String) (α : Type) where
  value? : Option α := none
  deriving DecidableEq, Repr

namespace Once

variable {label : String} {α : Type}

def assign (field : Once label α) (value : α) : Except Reassigned (Once label α) :=
  match field.value? with
  | some _ => .error ⟨label⟩
  | none => .ok ⟨some value⟩

def read (field : Once label α) : Reading α :=
  match field.value? with
  | some value => .ok value
  | none => .error ⟨label⟩

def isAssigned (field : Once label α) : Bool := field.value?.isSome

theorem read_of_assign {field next : Once label α} {value : α}
    (h : field.assign value = .ok next) : next.read = .ok value := by
  unfold assign at h
  split at h
  · simp at h
  · cases h
    rfl

theorem assign_eq_error_iff {field : Once label α} {value : α} {error : Reassigned} :
    field.assign value = .error error ↔ field.isAssigned = true ∧ error = ⟨label⟩ := by
  obtain ⟨_ | kept⟩ := field
  · simp [assign, isAssigned]
  · simp [assign, isAssigned, eq_comm]

theorem read_eq_error_iff {field : Once label α} {error : Unassigned} :
    field.read = .error error ↔ field.isAssigned = false ∧ error = ⟨label⟩ := by
  obtain ⟨_ | kept⟩ := field
  · simp [read, isAssigned, eq_comm]
  · simp [read, isAssigned]

end Once

end TaskScript
