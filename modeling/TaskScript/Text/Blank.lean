/-
Blank characters: the Unicode property White_Space.  Splitting cuts at every
single blank, so two blanks in a row leave an empty piece between them.
-/
import TaskScript.Text.CharRange

namespace TaskScript.Text

def blankRanges : List (Nat × Nat) :=
  [(0x9, 0xD), (0x20, 0x20), (0x85, 0x85), (0xA0, 0xA0), (0x1680, 0x1680),
   (0x2000, 0x200A), (0x2028, 0x2029), (0x202F, 0x202F), (0x205F, 0x205F),
   (0x3000, 0x3000)]

def isBlank (c : Char) : Bool :=
  inRanges c.toNat blankRanges

/-- The pieces between the blanks; one more than there are blanks. -/
def splitChars : List Char → List (List Char)
  | [] => [[]]
  | c :: rest =>
      if isBlank c then [] :: splitChars rest
      else
        match splitChars rest with
        | [] => [[c]]
        | piece :: pieces => (c :: piece) :: pieces

def splitBlank (text : String) : List String :=
  (splitChars text.toList).map String.ofList

def trimStart (chars : List Char) : List Char :=
  chars.dropWhile isBlank

def trimEnd (chars : List Char) : List Char :=
  (trimStart chars.reverse).reverse

/-- Drops the blanks at both ends. -/
def trim (text : String) : String :=
  String.ofList (trimEnd (trimStart text.toList))

/-- Whether there is nothing but blanks. -/
def allBlank (text : String) : Bool :=
  text.toList.all isBlank

theorem isBlank_of_isWhitespace {c : Char} (h : c.isWhitespace) : isBlank c := by
  simp only [Char.isWhitespace, Bool.or_eq_true, decide_eq_true_eq] at h
  rcases h with ((rfl | rfl) | rfl) | rfl <;> decide

theorem splitChars_ne_nil (chars : List Char) : splitChars chars ≠ [] := by
  cases chars with
  | nil => simp [splitChars]
  | cons c rest =>
      simp only [splitChars]
      split
      · simp
      · split <;> simp

example : splitChars ['a', ' ', ' ', 'b'] = [['a'], [], ['b']] := by decide

end TaskScript.Text
