/-
The lines of a text.  Only a line feed ends a line and only a carriage return could blur one, so
two texts without the latter have the same lines when they have as many line feeds.  Whatever
text is put into quotes or a comment, no line ends in it.
-/
import Mathlib.Data.List.Forall2
import TaskScript.Proofs.Text.Words
import TaskScript.Text.Escape
import TaskScript.Text.Identifier
import TaskScript.Text.Quoted

namespace TaskScript.Text

/-- No line of the text is blurred. -/
def Clear (text : String) : Prop := '\r' ∉ text.toList

instance (text : String) : Decidable (Clear text) := inferInstanceAs (Decidable ('\r' ∉ _))

/-- The text is part of one line. -/
structure Unbroken (text : String) : Prop where
  clear : Clear text
  newline : '\n' ∉ text.toList

instance (text : String) : Decidable (Unbroken text) :=
  decidable_of_iff (Clear text ∧ '\n' ∉ text.toList) ⟨fun h => ⟨h.1, h.2⟩, fun h => ⟨h.1, h.2⟩⟩

/-- Two texts with as many lines, of which none is blurred. -/
structure SameBreaks (left right : String) : Prop where
  left_clear : Clear left
  right_clear : Clear right
  count_eq : left.toList.count '\n' = right.toList.count '\n'

section Append

variable {first second separator : String}

theorem Clear.append (hfirst : Clear first) (hsecond : Clear second) :
    Clear (first ++ second) := by
  simp only [Clear, String.toList_append, List.mem_append, not_or]
  exact ⟨hfirst, hsecond⟩

theorem Clear.intercalate (hseparator : Clear separator) {parts : List String}
    (hparts : ∀ part ∈ parts, Clear part) : Clear (separator.intercalate parts) := by
  induction parts with
  | nil => exact List.not_mem_nil
  | cons part rest ih =>
      have hpart := hparts part List.mem_cons_self
      cases rest with
      | nil => simpa using hpart
      | cons next rest =>
          rw [String.intercalate_cons_cons]
          exact (hpart.append hseparator).append
            (ih fun other hother => hparts other (List.mem_cons_of_mem part hother))

end Append

namespace SameBreaks

variable {left right left' right' : String}

theorem refl (hclear : Clear left) : SameBreaks left left := ⟨hclear, hclear, rfl⟩

theorem symm (hbreaks : SameBreaks left right) : SameBreaks right left :=
  ⟨hbreaks.right_clear, hbreaks.left_clear, hbreaks.count_eq.symm⟩

theorem trans {other : String} (hfirst : SameBreaks left right)
    (hsecond : SameBreaks right other) : SameBreaks left other :=
  ⟨hfirst.left_clear, hsecond.right_clear, hfirst.count_eq.trans hsecond.count_eq⟩

theorem of_unbroken (hleft : Unbroken left) (hright : Unbroken right) : SameBreaks left right :=
  ⟨hleft.clear, hright.clear, by
    rw [List.count_eq_zero_of_not_mem hleft.newline, List.count_eq_zero_of_not_mem hright.newline]⟩

theorem append (hfirst : SameBreaks left right) (hsecond : SameBreaks left' right') :
    SameBreaks (left ++ left') (right ++ right') where
  left_clear := hfirst.left_clear.append hsecond.left_clear
  right_clear := hfirst.right_clear.append hsecond.right_clear
  count_eq := by
    simp only [String.toList_append, List.count_append, hfirst.count_eq, hsecond.count_eq]

theorem intercalate {separator : String} (hclear : Clear separator) {lefts rights : List String}
    (hparts : List.Forall₂ SameBreaks lefts rights) :
    SameBreaks (separator.intercalate lefts) (separator.intercalate rights) := by
  induction hparts with
  | nil => exact refl List.not_mem_nil
  | cons hpart hrest ih =>
      cases hrest with
      | nil => simpa using hpart
      | cons hnext hrest =>
          rw [String.intercalate_cons_cons, String.intercalate_cons_cons]
          exact (hpart.append (refl hclear)).append ih

end SameBreaks

/-- Neither of the two characters that end or blur a line. -/
def Plain (c : Char) : Prop := c ≠ '\n' ∧ c ≠ '\r'

instance (c : Char) : Decidable (Plain c) := inferInstanceAs (Decidable (_ ∧ _))

theorem unbroken_ofList {chars : List Char} (hchars : ∀ c ∈ chars, Plain c) :
    Unbroken (String.ofList chars) := by
  constructor
  · rw [Clear, String.toList_ofList]
    intro hreturn
    exact (hchars _ hreturn).2 rfl
  · rw [String.toList_ofList]
    intro hfeed
    exact (hchars _ hfeed).1 rfl

section Escapes

variable {c escaped : Char}

theorem plain_of_mem_escapeChar (hescaped : escaped ∈ escapeChar c) : Plain escaped := by
  unfold escapeChar at hescaped
  split at hescaped
  case h_6 _ _ hfeed hreturn _ =>
    obtain rfl := List.mem_singleton.mp hescaped
    exact ⟨hfeed, hreturn⟩
  all_goals
    rcases List.mem_pair.mp hescaped with rfl | rfl <;> decide

theorem unbroken_quote (text : String) : Unbroken (quote text) := by
  apply unbroken_ofList
  intro c hc
  simp only [quoteChars, List.mem_cons, List.mem_append, List.mem_flatMap, List.not_mem_nil,
    or_false] at hc
  rcases hc with rfl | ⟨_, _, hc⟩ | rfl
  · decide
  · exact plain_of_mem_escapeChar hc
  · decide

/-- Nothing in the text ends the line of a comment or hides in it. -/
def Quiet (text : String) : Prop := ∀ c ∈ text.toList, breaksComment c = false

instance (text : String) : Decidable (Quiet text) := List.decidableBAll _ _

theorem quiet_iff {text : String} :
    Quiet text ↔ ∀ c ∈ text.toList, isControl c = false ∧ c ≠ '\u2028' ∧ c ≠ '\u2029' := by
  simp [Quiet, breaksComment, and_assoc]

theorem Quiet.append {first second : String} (hfirst : Quiet first) (hsecond : Quiet second) :
    Quiet (first ++ second) := by
  intro c hc
  rw [String.toList_append] at hc
  exact (List.mem_append.mp hc).elim (hfirst c) (hsecond c)

theorem Quiet.unbroken {text : String} (hquiet : Quiet text) : Unbroken text where
  clear hreturn := absurd (hquiet _ hreturn) (by decide)
  newline hfeed := absurd (hquiet _ hfeed) (by decide)

theorem breaksComment_of_mem_hexDigits {n : Nat} (hc : c ∈ hexDigits n) :
    breaksComment c = false := by
  have hdigit : ∀ k < 16, breaksComment (hexDigit k) = false := by decide
  fun_induction hexDigits n with
  | case1 n hsmall =>
      obtain rfl := List.mem_singleton.mp hc
      exact hdigit n hsmall
  | case2 n _ ih =>
      rcases List.mem_append.mp hc with hc | hc
      · exact ih hc
      · obtain rfl := List.mem_singleton.mp hc
        exact hdigit _ (Nat.mod_lt n (by decide))

theorem breaksComment_of_mem_commentChar (hescaped : escaped ∈ commentChar c) :
    breaksComment escaped = false := by
  unfold commentChar at hescaped
  split at hescaped
  · split at hescaped
    case h_4 =>
      simp only [codePointEscape, List.mem_append, List.mem_cons, List.not_mem_nil,
        or_false] at hescaped
      rcases hescaped with ((rfl | rfl | rfl) | hescaped) | rfl
      · decide
      · decide
      · decide
      · exact breaksComment_of_mem_hexDigits hescaped
      · decide
    all_goals
      rcases List.mem_pair.mp hescaped with rfl | rfl <;> decide
  · rename_i hkept
    obtain rfl := List.mem_singleton.mp hescaped
    exact (Bool.not_eq_true _).mp hkept

theorem quiet_comment (text : String) : Quiet (comment text) := by
  intro c hc
  rw [comment, String.toList_ofList] at hc
  obtain ⟨_, _, hc⟩ := List.mem_flatMap.mp hc
  exact breaksComment_of_mem_commentChar hc

theorem comment_of_quiet {text : String} (hquiet : Quiet text) : comment text = text := by
  rw [comment, comment_chars_of_clean hquiet, String.ofList_toList]

end Escapes

theorem isBlank_of_isWord {c : Char} (hword : isWord c = true) : isBlank c = false := by
  have hapart : ∀ range ∈ blankRanges, ∀ k ≤ range.2 - range.1,
      inRanges (range.1 + k) wordRanges = false := by decide +kernel
  by_contra hblank
  obtain ⟨range, hrange, hfirst, hlast⟩ :=
    exists_range_of_inRanges ((Bool.not_eq_false _).mp hblank)
  have hnot := hapart range hrange (c.toNat - range.1) (by omega)
  rw [Nat.add_sub_cancel' hfirst] at hnot
  exact Bool.false_ne_true (hnot.symm.trans hword)

/-- An identifier has at least one character, and none of them is blank. -/
theorem isToken_of_isIdentifier {name : String} (hidentifier : isIdentifier name = true) :
    name ≠ "" ∧ IsToken name := by
  have hchars : isIdentifierChars name.toList = true := (Bool.and_eq_true_iff.mp hidentifier).2
  cases hlist : name.toList with
  | nil => simp [hlist, isIdentifierChars] at hchars
  | cons first rest =>
      simp only [hlist, isIdentifierChars, Bool.and_eq_true, List.all_eq_true] at hchars
      obtain ⟨⟨hfirst, _⟩, hrest⟩ := hchars
      constructor
      · rintro rfl
        simp at hlist
      · intro c hc
        rw [hlist] at hc
        rcases List.mem_cons.mp hc with rfl | hc
        · exact isBlank_of_isWord hfirst
        · exact isBlank_of_isWord (hrest c hc)

theorem IsToken.unbroken {text : String} (htoken : IsToken text) : Unbroken text := by
  have hfeed : isBlank '\n' = true := by decide
  have hreturn : isBlank '\r' = true := by decide
  constructor
  · intro h
    simp [htoken _ h] at hreturn
  · intro h
    simp [htoken _ h] at hfeed

end TaskScript.Text
