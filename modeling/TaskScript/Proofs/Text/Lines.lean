/-
Texts by their lines.  Only a line feed ends a line, so a text has as many lines as line feeds,
one more if something is left behind the last one; and texts that are put together, each with a
line feed behind it, keep the lines they have.
-/
import Mathlib.Data.List.Basic

namespace TaskScript.Text

/-- The pieces between the line feeds. -/
def linesOf (text : String) : List String := (text.toList.splitOn '\n').map String.ofList

theorem linesOf_ne_nil (text : String) : linesOf text ≠ [] := by
  rw [linesOf, ne_eq, List.map_eq_nil_iff]
  exact List.splitOn_ne_nil '\n' text.toList

theorem intercalate_linesOf (text : String) : "\n".intercalate (linesOf text) = text := by
  have hlines : (linesOf text).map String.toList = text.toList.splitOn '\n' := by
    rw [linesOf, List.map_map]
    simp
  rw [← String.toList_inj, String.toList_intercalate, hlines]
  exact List.intercalate_splitOn '\n'

theorem not_mem_of_mem_splitOn {c : Char} {chars piece : List Char}
    (hpiece : piece ∈ chars.splitOn c) : c ∉ piece := by
  induction chars generalizing piece with
  | nil => simp_all
  | cons first rest ih =>
      rw [List.splitOn_cons_eq_if_modifyHead] at hpiece
      split at hpiece
      · rcases List.mem_cons.mp hpiece with rfl | hpiece
        · exact List.not_mem_nil
        · exact ih hpiece
      · rename_i hfirst
        obtain ⟨head, tail, hsplit⟩ := List.exists_cons_of_ne_nil (List.splitOn_ne_nil c rest)
        rw [hsplit, List.modifyHead_cons] at hpiece
        rcases List.mem_cons.mp hpiece with rfl | hpiece
        · rw [List.mem_cons, not_or]
          exact ⟨fun h => hfirst (by simp [h]), ih (hsplit ▸ List.mem_cons_self)⟩
        · exact ih (hsplit ▸ List.mem_cons_of_mem head hpiece)

theorem not_mem_of_mem_linesOf {text line : String} (hline : line ∈ linesOf text) :
    '\n' ∉ line.toList := by
  obtain ⟨piece, hpiece, rfl⟩ := List.mem_map.mp hline
  rw [String.toList_ofList]
  exact not_mem_of_mem_splitOn hpiece

theorem linesOf_of_not_mem {text : String} (hwhole : '\n' ∉ text.toList) :
    linesOf text = [text] := by
  rw [linesOf, List.splitOn_eq_singleton hwhole]
  simp

theorem linesOf_append_feed (first second : String) :
    linesOf (first ++ "\n" ++ second) = linesOf first ++ linesOf second := by
  have hchars : (first ++ "\n" ++ second).toList = first.toList ++ '\n' :: second.toList := by
    simp
  have hsplit : (first.toList ++ '\n' :: second.toList).splitOn '\n' =
      first.toList.splitOn '\n' ++ second.toList.splitOn '\n' :=
    List.splitOnP_append_cons _ _ (by decide)
  rw [linesOf, hchars, hsplit, List.map_append]
  rfl

/-- The lines of a text: what each line feed ends, and what is left behind the last one unless
that is nothing. -/
def lines (text : String) : List String :=
  if (linesOf text).getLast? = some "" then (linesOf text).dropLast else linesOf text

/-- Texts with a line feed behind each. -/
def ended (texts : List String) : String := String.join (texts.map (· ++ "\n"))

theorem linesOf_ended (texts : List String) :
    linesOf (ended texts) = texts.flatMap linesOf ++ [""] := by
  induction texts with
  | nil => rfl
  | cons text rest ih =>
      have hended : ended (text :: rest) = text ++ "\n" ++ ended rest := by
        rw [ended, List.map_cons, String.join_cons]
        rfl
      rw [hended, linesOf_append_feed, ih, List.flatMap_cons, List.append_assoc]

theorem lines_ended (texts : List String) : lines (ended texts) = texts.flatMap linesOf := by
  rw [lines, linesOf_ended, List.getLast?_concat, if_pos rfl, List.dropLast_concat]

/-- The number of line feeds in a text. -/
def feeds (text : String) : Nat := text.toList.count '\n'

theorem feeds_eq_zero_iff {text : String} : feeds text = 0 ↔ '\n' ∉ text.toList :=
  List.count_eq_zero

theorem feeds_of_not_mem {text : String} (hwhole : '\n' ∉ text.toList) : feeds text = 0 :=
  feeds_eq_zero_iff.mpr hwhole

@[simp] theorem feeds_append (first second : String) :
    feeds (first ++ second) = feeds first + feeds second := by
  rw [feeds, String.toList_append, List.count_append]
  rfl

@[simp] theorem feeds_toString (text : String) : feeds (toString text) = feeds text := rfl

theorem feeds_join_eq_zero_iff {texts : List String} :
    feeds (String.join texts) = 0 ↔ ∀ text ∈ texts, '\n' ∉ text.toList := by
  rw [feeds_eq_zero_iff, String.toList_join, List.mem_flatMap]
  simp only [not_exists, not_and]

theorem feeds_intercalate {separator : String} (hseparator : feeds separator = 0)
    (parts : List String) : feeds (separator.intercalate parts) = feeds (String.join parts) := by
  induction parts with
  | nil => rfl
  | cons part rest ih =>
      cases rest with
      | nil => simp
      | cons next rest =>
          rw [String.intercalate_cons_cons, feeds_append, feeds_append, hseparator, ih,
            Nat.add_zero, ← feeds_append, ← String.join_cons]

/-- A number is written with digits only. -/
theorem not_mem_repr {c : Char} (hdigit : c.isDigit = false) (n : Nat) : c ∉ n.repr.toList := by
  intro hmem
  rw [Nat.repr_eq_ofList_toDigits, String.toList_ofList] at hmem
  have hdigit' := Nat.isDigit_of_mem_toDigits (Nat.succ_pos 9) (Nat.le_refl 10) hmem
  exact Bool.false_ne_true (hdigit.symm.trans hdigit')

theorem feeds_repr (n : Nat) : feeds n.repr = 0 := feeds_of_not_mem (not_mem_repr (by decide) n)

theorem length_splitOn (c : Char) (chars : List Char) :
    (chars.splitOn c).length = chars.count c + 1 := by
  induction chars with
  | nil => rfl
  | cons first rest ih =>
      rw [List.splitOn_cons_eq_if_modifyHead, List.count_cons]
      split
      · rw [List.length_cons, ih]
      · rw [List.length_modifyHead, ih, Nat.add_zero]

theorem length_linesOf (text : String) : (linesOf text).length = feeds text + 1 := by
  rw [linesOf, List.length_map, length_splitOn, feeds]

/-- Texts with a line feed behind each have a line for each, and one more for each line feed
they hold. -/
theorem length_lines_ended (texts : List String) :
    (lines (ended texts)).length = texts.length + feeds (String.join texts) := by
  rw [lines_ended]
  induction texts with
  | nil => rfl
  | cons text rest ih =>
      rw [List.flatMap_cons, List.length_append, ih, length_linesOf, String.join_cons,
        feeds_append, List.length_cons]
      omega

theorem lines_ended_eq_iff {texts : List String} :
    lines (ended texts) = texts ↔ ∀ text ∈ texts, '\n' ∉ text.toList := by
  constructor
  · intro hlines text htext
    rw [← hlines, lines_ended] at htext
    obtain ⟨_, _, hline⟩ := List.mem_flatMap.mp htext
    exact not_mem_of_mem_linesOf hline
  · intro hwhole
    rw [lines_ended]
    calc texts.flatMap linesOf
        = texts.flatMap fun text => [text] :=
          List.flatMap_congr fun text htext => linesOf_of_not_mem (hwhole text htext)
      _ = texts := List.flatMap_singleton' texts

end TaskScript.Text
