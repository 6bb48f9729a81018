/-
The characters that numbers are written with.  No carriage return is among them, however large
or small the number is and whether it is one at all.
-/
import TaskScript.Number.Shortest
import TaskScript.Proofs.Text.Breaks
import TaskScript.Proofs.Text.Lines

namespace TaskScript

open Text

theorem clear_repr (n : Nat) : Clear n.repr := not_mem_repr (by decide) n

theorem clear_repr_int (n : Int) : Clear n.repr := by
  cases n with
  | ofNat n => exact clear_repr n
  | negSucc n => exact Clear.append (by decide) (clear_repr (n + 1))

namespace Binary64

theorem clear_ofList {chars : List Char} (hchars : '\r' ∉ chars) : Clear (String.ofList chars) := by
  rwa [Clear, String.toList_ofList]

theorem clear_magnitudeText (x : Binary64) : Clear x.magnitudeText := by
  have hdigits : Clear (toString x.shortest.coefficient) := clear_repr _
  have hzeros (count : Nat) : Clear (String.ofList (List.replicate count '0')) :=
    clear_ofList fun h => absurd (List.eq_of_mem_replicate h) (by decide)
  unfold magnitudeText
  dsimp only
  split
  · apply Clear.append (Clear.append ?_ (by decide)) (clear_repr_int _)
    split
    · rename_i first second rest hparts
      rw [Clear, hparts] at hdigits
      exact clear_ofList (by simpa using hdigits)
    · exact hdigits
  · split
    · exact (Clear.append (by decide) (hzeros _)).append hdigits
    · split
      · exact (hdigits.append (hzeros _)).append (by decide)
      · apply clear_ofList
        intro h
        rcases List.mem_append.mp h with h | h
        · exact hdigits (List.mem_of_mem_take h)
        · rcases List.mem_cons.mp h with h | h
          · exact absurd h (by decide)
          · exact hdigits (List.mem_of_mem_drop h)

theorem clear_text (x : Binary64) : Clear x.text := by
  have hsign : Clear (if x.isNegative then "-" else "") := by split <;> decide
  unfold text
  split
  · decide
  · dsimp only
    split
    · exact hsign.append (by decide)
    · split
      · exact hsign.append (by decide)
      · exact hsign.append x.clear_magnitudeText

end Binary64

end TaskScript
