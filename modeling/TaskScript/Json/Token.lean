/-
Tokens of the data format.  The scanner takes one character at a time and remembers
what it is in the middle of; a number or a word ends with the first character that
cannot belong to it.
-/
import TaskScript.Json.Number

namespace TaskScript.Json

inductive Token where
  | openBrace
  | closeBrace
  | openBracket
  | closeBracket
  | comma
  | colon
  | null
  | bool (value : Bool)
  | number (value : Number)
  /-- No text when an escape names half a character. -/
  | string (text? : Option String)
  deriving DecidableEq, Repr

/-- How far an escape has been read. -/
inductive Escape where
  | none
  | begun
  /-- Hexadecimal digits read so far: their value and how many are to come. -/
  | hex (value : Nat) (left : Nat)
  deriving DecidableEq, Repr

/-- A string that is being read. -/
structure StringScan where
  /-- The last character first. -/
  chars : List Char := []
  isWhole : Bool := true
  /-- The first half of a character whose second half has to follow. -/
  half? : Option Nat := none
  escape : Escape := .none
  deriving DecidableEq, Repr

namespace StringScan

/-- Adds a character; a first half before it stays alone. -/
def push (scan : StringScan) (c : Char) : StringScan :=
  { chars := c :: scan.chars, isWhole := scan.isWhole && scan.half?.isNone }

/-- Adds a code unit: a character, or half of one. -/
def pushUnit (scan : StringScan) (unit : Nat) : StringScan :=
  if 0xDC00 ≤ unit && unit ≤ 0xDFFF then
    match scan.half? with
    | some half =>
        { chars := Char.ofNat (0x10000 + (half - 0xD800) * 0x400 + (unit - 0xDC00)) :: scan.chars
          isWhole := scan.isWhole }
    | none => { scan with isWhole := false, escape := .none }
  else if 0xD800 ≤ unit && unit ≤ 0xDBFF then
    { chars := scan.chars, isWhole := scan.isWhole && scan.half?.isNone, half? := some unit }
  else scan.push (Char.ofNat unit)

def simpleEscape? : Char → Option Char
  | '"' => some '"'
  | '\\' => some '\\'
  | '/' => some '/'
  | 'b' => some '\x08'
  | 'f' => some '\x0c'
  | 'n' => some '\n'
  | 'r' => some '\r'
  | 't' => some '\t'
  | _ => none

def hexValue? (c : Char) : Option Nat :=
  if '0' ≤ c ∧ c ≤ '9' then some (c.toNat - 0x30)
  else if 'a' ≤ c ∧ c ≤ 'f' then some (c.toNat - 0x57)
  else if 'A' ≤ c ∧ c ≤ 'F' then some (c.toNat - 0x37)
  else none

def text? (scan : StringScan) : Option String :=
  if scan.isWhole && scan.half?.isNone then some (String.ofList scan.chars.reverse) else none

/-- Takes a character that does not end the string. -/
def take? (scan : StringScan) (c : Char) : Option StringScan :=
  match scan.escape with
  | .none =>
      if c = '\\' then some { scan with escape := .begun }
      else if c.toNat < 0x20 then none
      else some (scan.push c)
  | .begun =>
      if c = 'u' then some { scan with escape := .hex 0 4 }
      else (simpleEscape? c).map scan.push
  | .hex value left =>
      (hexValue? c).map fun digit =>
        if left = 1 then scan.pushUnit (value * 16 + digit)
        else { scan with escape := .hex (value * 16 + digit) (left - 1) }

end StringScan

/-- What the scanner is in the middle of; characters come the last one first. -/
inductive Scan where
  | between
  | inNumber (chars : List Char)
  | inWord (chars : List Char)
  | inString (scan : StringScan)
  deriving DecidableEq, Repr

namespace Scan

def isNumberChar (c : Char) : Bool :=
  c.isDigit || c == '-' || c == '+' || c == '.' || c == 'e' || c == 'E'

def word? : List Char → Option Token
  | ['n', 'u', 'l', 'l'] => some .null
  | ['t', 'r', 'u', 'e'] => some (.bool true)
  | ['f', 'a', 'l', 's', 'e'] => some (.bool false)
  | _ => none

/-- Starts with a character that nothing before it claims. -/
def start? (c : Char) : Option (List Token × Scan) :=
  match c with
  | ' ' | '\t' | '\n' | '\r' => some ([], .between)
  | '\x7b' => some ([.openBrace], .between)
  | '\x7d' => some ([.closeBrace], .between)
  | '[' => some ([.openBracket], .between)
  | ']' => some ([.closeBracket], .between)
  | ',' => some ([.comma], .between)
  | ':' => some ([.colon], .between)
  | '"' => some ([], .inString {})
  | c =>
      if c.isDigit || c == '-' then some ([], .inNumber [c])
      else if c.isLower then some ([], .inWord [c])
      else none

/-- The token that ends here, if something is open that can end. -/
def finish? : Scan → Option (List Token)
  | .between => some []
  | .inNumber chars => (Number.read? chars.reverse).map fun n => [.number n]
  | .inWord chars => (word? chars.reverse).map fun token => [token]
  | .inString _ => none

def step? (scan : Scan) (c : Char) : Option (List Token × Scan) :=
  match scan with
  | .inString string =>
      if c = '"' ∧ string.escape = .none then some ([.string string.text?], .between)
      else (string.take? c).map fun string => ([], .inString string)
  | .inNumber chars =>
      if isNumberChar c then some ([], .inNumber (c :: chars)) else next? (.inNumber chars) c
  | .inWord chars =>
      if c.isLower then some ([], .inWord (c :: chars)) else next? (.inWord chars) c
  | .between => start? c
where
  /-- Ends what is open and starts anew. -/
  next? (scan : Scan) (c : Char) : Option (List Token × Scan) := do
    let ended ← scan.finish?
    let (started, scan) ← start? c
    return (ended ++ started, scan)

end Scan

/-- The tokens from some state of the scanner on. -/
def tokensFrom (scan : Scan) : List Char → Option (List Token)
  | [] => scan.finish?
  | c :: rest => do
      let (tokens, scan) ← scan.step? c
      return tokens ++ (← tokensFrom scan rest)

def tokens? (chars : List Char) : Option (List Token) := tokensFrom .between chars

example : tokens? ['[', '1', ']'] =
    some [.openBracket, .number { whole := ['1'] }, .closeBracket] := by decide

end TaskScript.Json
