/-
Generated names: `var1`, `var2`, … in the order they are asked for.  One supply
serves several scripts, so their generated names never collide.
-/
namespace TaskScript

/-- The number of the next name. -/
structure NameSupply where
  next : Nat := 1
  deriving DecidableEq, Repr

namespace NameSupply

def nameAt (number : Nat) : String := s!"var{number}"

def draw (supply : NameSupply) : String × NameSupply :=
  (nameAt supply.next, ⟨supply.next + 1⟩)

/-- Draws `count` names. -/
def drawMany (supply : NameSupply) : Nat → List String × NameSupply
  | 0 => ([], supply)
  | count + 1 =>
      let (name, supply) := supply.draw
      let (names, supply) := supply.drawMany count
      (name :: names, supply)

theorem drawMany_snd (supply : NameSupply) (count : Nat) :
    (supply.drawMany count).2 = ⟨supply.next + count⟩ := by
  induction count generalizing supply with
  | zero => rfl
  | succ count ih =>
      rw [drawMany, draw]
      simp only [ih, mk.injEq]
      omega

/-- The least number from `number` on whose name is not in `taken`.  A name that is
taken is passed only once, so it is dropped on the way. -/
def freeNumber (taken : List String) (number : Nat) : Nat :=
  if h : nameAt number ∈ taken then freeNumber (taken.erase (nameAt number)) (number + 1)
  else number
termination_by taken.length
decreasing_by
  rw [List.length_erase_of_mem h]
  have := List.length_pos_of_mem h
  omega

/-- Draws names until one is not in `taken`. -/
def drawFree (supply : NameSupply) (taken : List String) : String × NameSupply :=
  let number := freeNumber taken supply.next
  (nameAt number, ⟨number + 1⟩)

theorem le_freeNumber (taken : List String) (number : Nat) :
    number ≤ freeNumber taken number := by
  fun_induction freeNumber taken number <;> omega

theorem freeNumber_le (taken : List String) (number : Nat) :
    freeNumber taken number ≤ number + taken.length := by
  fun_induction freeNumber taken number with
  | case1 taken number h ih =>
      rw [List.length_erase_of_mem h] at ih
      have := List.length_pos_of_mem h
      omega
  | case2 => omega

end NameSupply

end TaskScript
