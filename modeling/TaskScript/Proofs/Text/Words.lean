/-
Words with a space between them.  Splitting at blanks takes the words apart again, as long as
they hold no blanks themselves.
-/
import Mathlib.Data.List.Basic
import TaskScript.Text.Blank

namespace TaskScript.Text

theorem splitChars_eq_splitOnP (chars : List Char) : splitChars chars = chars.splitOnP isBlank := by
  induction chars with
  | nil => rfl
  | cons c rest ih =>
      rw [splitChars, List.splitOnP_cons_eq_if_modifyHead, ih]
      split
      · rfl
      · cases hrest : rest.splitOnP isBlank with
        | nil => exact absurd hrest (List.splitOnP_ne_nil isBlank rest)
        | cons piece pieces => rfl

theorem splitBlank_append_space (left right : String) :
    splitBlank (left ++ " " ++ right) = splitBlank left ++ splitBlank right := by
  have hchars : (left ++ " " ++ right).toList = left.toList ++ ' ' :: right.toList := by simp
  have hsplit : splitChars (left.toList ++ ' ' :: right.toList) =
      splitChars left.toList ++ splitChars right.toList := by
    simp only [splitChars_eq_splitOnP]
    exact List.splitOnP_append_cons _ _ (by decide)
  rw [splitBlank, hchars, hsplit, List.map_append]
  rfl

theorem splitBlank_intercalate {words : List String} (hne : words ≠ []) :
    splitBlank (" ".intercalate words) = words.flatMap splitBlank := by
  induction words with
  | nil => exact absurd rfl hne
  | cons word rest ih =>
      cases rest with
      | nil => simp
      | cons next rest =>
          rw [String.intercalate_cons_cons, splitBlank_append_space, ih (by simp)]
          rfl

/-- Nothing in the text is blank. -/
def IsToken (text : String) : Prop := ∀ c ∈ text.toList, isBlank c = false

instance (text : String) : Decidable (IsToken text) :=
  decidable_of_iff (text.toList.all fun c => !isBlank c) (by simp [IsToken])

theorem splitBlank_of_isToken {text : String} (htoken : IsToken text) :
    splitBlank text = [text] := by
  rw [splitBlank, splitChars_eq_splitOnP, List.splitOnP_eq_singleton htoken]
  simp

theorem splitBlank_intercalate_of_isToken {words : List String} (hne : words ≠ [])
    (hwords : ∀ word ∈ words, IsToken word) : splitBlank (" ".intercalate words) = words := by
  rw [splitBlank_intercalate hne]
  calc words.flatMap splitBlank
      = words.flatMap fun word => [word] :=
        List.flatMap_congr fun word hword => splitBlank_of_isToken (hwords word hword)
    _ = words := List.flatMap_singleton' words

/-- The text is a single line: of the blanks it holds spaces only. -/
def IsLine (text : String) : Prop := ∀ c ∈ text.toList, isBlank c = true → c = ' '

theorem isLine_intercalate {words : List String} (hwords : ∀ word ∈ words, IsToken word) :
    IsLine (" ".intercalate words) := by
  induction words with
  | nil => simp [IsLine]
  | cons word rest ih =>
      have hword : ∀ c ∈ word.toList, isBlank c = true → c = ' ' := by
        intro c hc hblank
        rw [hwords word List.mem_cons_self c hc] at hblank
        cases hblank
      have hrest := ih fun next hnext => hwords next (List.mem_cons_of_mem word hnext)
      cases rest with
      | nil => simpa [IsLine] using hword
      | cons next rest =>
          intro c hc
          simp only [String.intercalate_cons_cons, String.toList_append, List.mem_append] at hc
          rcases hc with (hc | hc) | hc
          · exact hword c hc
          · exact fun _ => by simpa using hc
          · exact hrest c hc

end TaskScript.Text
