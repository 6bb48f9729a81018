/-
How generated names are spelt.  They are identifiers, and they differ from every name that does
not begin like them.
-/
import TaskScript.NameSupply
import TaskScript.Text.Identifier

namespace TaskScript.NameSupply

theorem toList_nameAt (number : Nat) :
    (nameAt number).toList = 'v' :: 'a' :: 'r' :: Nat.toDigits 10 number := by
  simp [nameAt, toString, Nat.repr_eq_ofList_toDigits]

theorem nameAt_ne {name : String} (hname : name.toList.head? ≠ some 'v') (number : Nat) :
    nameAt number ≠ name := by
  rintro rfl
  rw [toList_nameAt] at hname
  exact hname rfl

theorem ne_nameAt {name : String} (hname : name.toList.head? ≠ some 'v') (number : Nat) :
    name ≠ nameAt number :=
  (nameAt_ne hname number).symm

theorem isIdentifier_nameAt (number : Nat) : Text.isIdentifier (nameAt number) = true := by
  have hdigits : (Nat.toDigits 10 number).all Text.isWord = true := by
    rw [List.all_eq_true]
    intro c hc
    apply Text.isWord_of_isAlphanum
    have hdigit : c.isDigit = true := Nat.isDigit_of_mem_toDigits (b := 10) (by decide) (by decide) hc
    rw [Char.isAlphanum, hdigit, Bool.or_true]
  have hunderscore : nameAt number ≠ "_" := nameAt_ne (by decide) number
  have hletters : Text.isWord 'v' = true ∧ Text.isDecimalDigit 'v' = false ∧
      Text.isWord 'a' = true ∧ Text.isWord 'r' = true := by decide
  obtain ⟨hv, hdigit, ha, hr⟩ := hletters
  simp [Text.isIdentifier, Text.isIdentifierChars, toList_nameAt, hunderscore, hv, hdigit, ha, hr,
    hdigits]

end TaskScript.NameSupply
