/-
Names that a script may assign to: a word character that is no digit, then word
characters.  The throwaway name, a single underscore, is refused.
-/
import TaskScript.Text.CharRange
import TaskScript.Text.WordTable

namespace TaskScript.Text

def isWord (c : Char) : Bool := inRanges c.toNat wordRanges

def isDecimalDigit (c : Char) : Bool := inRanges c.toNat digitRanges

def isIdentifierChars : List Char → Bool
  | [] => false
  | c :: rest => isWord c && !isDecimalDigit c && rest.all isWord

def isIdentifier (name : String) : Bool :=
  name != "_" && isIdentifierChars name.toList

theorem isWord_of_isAlphanum {c : Char} (h : c.isAlphanum) : isWord c := by
  have hranges : ((decide (65 ≤ c.toNat ∧ c.toNat ≤ 90) ||
      decide (97 ≤ c.toNat) && decide (c.toNat ≤ 122)) ||
      decide (48 ≤ c.toNat) && decide (c.toNat ≤ 57)) = true := h
  have hcases : (65 ≤ c.toNat ∧ c.toNat ≤ 90) ∨ (97 ≤ c.toNat ∧ c.toNat ≤ 122) ∨
      (48 ≤ c.toNat ∧ c.toNat ≤ 57) := by
    simp only [Bool.or_eq_true, Bool.and_eq_true, decide_eq_true_eq] at hranges
    rcases hranges with (h | h) | h
    · exact .inl h
    · exact .inr (.inl h)
    · exact .inr (.inr h)
  have hsmall : ∀ n < 123, (65 ≤ n ∧ n ≤ 90) ∨ (97 ≤ n ∧ n ≤ 122) ∨ (48 ≤ n ∧ n ≤ 57) →
      inRanges n wordRanges = true := by decide
  exact hsmall _ (by omega) hcases

example : isIdentifierChars ['a', '1'] = true := by decide

example : isIdentifierChars ['1', 'a'] = false := by decide

end TaskScript.Text
