/-
The number of a generated name.  Different numbers have different names, so among as many
numbers as there are names taken, and one more, there is a free one; the search finds the least.
-/
import Mathlib.Order.Bounds.Basic
import TaskScript.NameSupply

namespace TaskScript.NameSupply

variable {taken : List String} {number : Nat}

theorem nameAt_injective : Function.Injective nameAt := by
  intro m n h
  simp only [nameAt, toString, String.append_right_inj, Nat.repr_eq_ofList_toDigits,
    String.ofList_inj] at h
  have hread := congrArg (Nat.ofDigitChars 10 · 0) h
  simpa only [Nat.ofDigitChars_ten_toDigits] using hread

theorem nameAt_freeNumber_notMem (taken : List String) (number : Nat) :
    nameAt (freeNumber taken number) ∉ taken := by
  fun_induction freeNumber taken number with
  | case1 taken number htaken ih =>
      -- The name that was erased is that of a smaller number.
      have hlt := le_freeNumber (taken.erase (nameAt number)) (number + 1)
      have hne : nameAt (freeNumber (taken.erase (nameAt number)) (number + 1)) ≠ nameAt number :=
        fun h => by
          have heq := nameAt_injective h
          omega
      rwa [List.mem_erase_of_ne hne] at ih
  | case2 taken number hfree => exact hfree

theorem nameAt_mem_of_lt_freeNumber {k : Nat} (hle : number ≤ k)
    (hlt : k < freeNumber taken number) : nameAt k ∈ taken := by
  fun_induction freeNumber taken number with
  | case1 taken number htaken ih =>
      rcases Nat.eq_or_lt_of_le hle with rfl | hlt'
      · exact htaken
      · exact List.mem_of_mem_erase (ih hlt' hlt)
  | case2 => omega

/-- The least number from `number` on whose name is not taken. -/
theorem isLeast_freeNumber (taken : List String) (number : Nat) :
    IsLeast {k | number ≤ k ∧ nameAt k ∉ taken} (freeNumber taken number) := by
  refine ⟨⟨le_freeNumber taken number, nameAt_freeNumber_notMem taken number⟩, ?_⟩
  rintro k ⟨hle, hfree⟩
  by_contra hlt
  exact hfree (nameAt_mem_of_lt_freeNumber hle (Nat.lt_of_not_le hlt))

/-- A number whose name is taken is passed over. -/
theorem freeNumber_succ (htaken : nameAt number ∈ taken) :
    freeNumber taken (number + 1) = freeNumber taken number := by
  apply (isLeast_freeNumber taken (number + 1)).unique
  obtain ⟨⟨hle, hfree⟩, hleast⟩ := isLeast_freeNumber taken number
  have hne : number ≠ freeNumber taken number := fun h => hfree (h ▸ htaken)
  exact ⟨⟨by omega, hfree⟩, fun k ⟨hk, hkfree⟩ => hleast ⟨by omega, hkfree⟩⟩

theorem drawFree_of_notMem {supply : NameSupply} (hfree : nameAt supply.next ∉ taken) :
    supply.drawFree taken = supply.draw := by
  rw [drawFree, freeNumber, dif_neg hfree, draw]

end TaskScript.NameSupply
