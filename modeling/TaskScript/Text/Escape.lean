/-
Two ways to show text on one line.  A comment shows control characters and line
separators as escapes and leaves all else alone; a quoted display escapes quotes,
backslashes and every character without a printed shape.
-/
import TaskScript.Text.CharRange
import TaskScript.Text.ShapeTable

namespace TaskScript.Text

def hexDigit (n : Nat) : Char :=
  if n < 10 then Char.ofNat (0x30 + n) else Char.ofNat (0x57 + n)

/-- Lower-case hexadecimal digits without leading zeros. -/
def hexDigits (n : Nat) : List Char :=
  if n < 16 then [hexDigit n] else hexDigits (n / 16) ++ [hexDigit (n % 16)]

/-- The code point in braces, as in `\u\x7b2028\x7d`. -/
def codePointEscape (c : Char) : List Char :=
  ['\\', 'u', '\x7b'] ++ hexDigits c.toNat ++ ['\x7d']

/-- Category Cc. -/
def isControl (c : Char) : Bool :=
  inRanges c.toNat [(0x0, 0x1F), (0x7F, 0x9F)]

/-- Whether `c` could end the line of a comment or hide in it. -/
def breaksComment (c : Char) : Bool :=
  isControl c || c == '\u2028' || c == '\u2029'

def commentChar (c : Char) : List Char :=
  if breaksComment c then
    match c with
    | '\t' => ['\\', 't']
    | '\r' => ['\\', 'r']
    | '\n' => ['\\', 'n']
    | c => codePointEscape c
  else [c]

/-- The text as it stands in a comment line. -/
def comment (text : String) : String :=
  String.ofList (text.toList.flatMap commentChar)

def displayChar (c : Char) : List Char :=
  match c with
  | '\x00' => ['\\', '0']
  | '\t' => ['\\', 't']
  | '\r' => ['\\', 'r']
  | '\n' => ['\\', 'n']
  | '"' => ['\\', '"']
  | '\\' => ['\\', '\\']
  | c => if inRanges c.toNat shapelessRanges then codePointEscape c else [c]

/-- The text in double quotes, with everything that has no shape escaped. -/
def display (text : String) : String :=
  String.ofList ('"' :: (text.toList.flatMap displayChar ++ ['"']))

theorem comment_chars_of_clean {chars : List Char}
    (h : ∀ c ∈ chars, breaksComment c = false) : chars.flatMap commentChar = chars := by
  induction chars with
  | nil => rfl
  | cons c rest ih =>
      have hc := h c List.mem_cons_self
      simp [commentChar, hc, ih fun x hx => h x (List.mem_cons_of_mem _ hx)]

end TaskScript.Text
