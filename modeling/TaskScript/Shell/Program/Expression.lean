/-
Expressions given as words: each operator, operand and parenthesis is a word of its own.
A value is a text, and one that reads as an integer can be calculated with.
-/
import TaskScript.Shell.Program.Basic

namespace TaskScript.Shell.Program

/-- Why words are no expression, or one without a value. -/
inductive ExpressionFault where
  | missingArgument (last : String)
  | unexpected (word : String)
  | unexpectedClose
  | unclosed (last : String)
  | notClosed (word : String)
  | notInteger
  | divisionByZero
  deriving DecidableEq, Repr

def ExpressionFault.message : ExpressionFault → String
  | .missingArgument last => s!"syntax error: missing argument after {quotedText last}"
  | .unexpected word => s!"syntax error: unexpected argument {quotedText word}"
  | .unexpectedClose => "syntax error: unexpected ')'"
  | .unclosed last => s!"syntax error: expecting ')' after {quotedText last}"
  | .notClosed word => s!"syntax error: expecting ')' instead of {quotedText word}"
  | .notInteger => "non-integer argument"
  | .divisionByZero => "division by zero"

namespace Expression

/-- The word that was read last and those that are left. -/
structure Place where
  last : String := ""
  rest : List String

abbrev Reading := StateT Place (Except ExpressionFault)

/-- Digits, with or without a minus. -/
def integer? (text : String) : Option Int :=
  match text.toList with
  | '-' :: digits => if isDigits digits then text.toInt? else none
  | digits => if isDigits digits then text.toInt? else none
where
  isDigits (chars : List Char) : Bool := !chars.isEmpty && chars.all Char.isDigit

/-- Nothing, or zeros with or without a minus. -/
def isNull (text : String) : Bool := text.isEmpty || integer? text == some 0

def integers (left right : String) : Except ExpressionFault (Int × Int) :=
  match integer? left, integer? right with
  | some a, some b => .ok (a, b)
  | _, _ => .error .notInteger

def divided (operate : Int → Int → Int) (left right : String) :
    Except ExpressionFault String := do
  let (a, b) ← integers left right
  if b = 0 then throw .divisionByZero else return toString (operate a b)

/-- The value of an operator between two operands. -/
def apply (operator left right : String) : Except ExpressionFault String :=
  let order : Ordering :=
    match integers left right with
    | .ok (a, b) => compare a b
    | .error _ => compare left right
  let truth (value : Bool) : Except ExpressionFault String := .ok (if value then "1" else "0")
  match operator with
  | "|" => .ok (if !isNull left then left else if isNull right then "0" else right)
  | "&" => .ok (if isNull left || isNull right then "0" else left)
  | "<" => truth order.isLT
  | "<=" => truth order.isLE
  | "=" | "==" => truth order.isEq
  | "!=" => truth order.isNe
  | ">=" => truth order.isGE
  | ">" => truth order.isGT
  | "+" => (integers left right).map fun (a, b) => toString (a + b)
  | "-" => (integers left right).map fun (a, b) => toString (a - b)
  | "*" => (integers left right).map fun (a, b) => toString (a * b)
  | "/" => divided Int.tdiv left right
  | "%" => divided Int.tmod left right
  | operator => .error (.unexpected operator)

/-- Operators, those that bind more loosely first. -/
def levels : List (List String) :=
  [["|"], ["&"], ["<", "<=", "=", "==", "!=", ">=", ">"], ["+", "-"], ["*", "/", "%"]]

/-- Reads the next word, which has to be there. -/
def next : Reading String := do
  match ← get with
  | ⟨last, []⟩ => throw (.missingArgument last)
  | ⟨_, word :: rest⟩ => do
      set (Place.mk word rest)
      return word

/-- A part of a text, from a place that is counted from one on. -/
def part (text start length : String) : String :=
  match integer? start, integer? length with
  | some start, some length =>
      if start ≤ 0 ∨ length ≤ 0 then ""
      else String.ofList ((text.toList.drop (start.toNat - 1)).take length.toNat)
  | _, _ => ""

/-- The place of the first of some characters in a text. -/
def placeOf (text chars : String) : Nat :=
  match text.toList.findIdx? chars.toList.contains with
  | some i => i + 1
  | none => 0

mutual

/-- Reads what the operators of the levels, and those that bind more tightly, join. -/
def readLevel (fuel : Nat) (levels : List (List String)) : Reading String :=
  match fuel with
  | 0 => throw .notInteger
  | fuel + 1 =>
      match levels with
      | [] => readOperand fuel
      | operators :: tighter => do
          let left ← readLevel fuel tighter
          extend fuel operators tighter left

/-- Goes on after a left operand. -/
def extend (fuel : Nat) (operators : List String) (tighter : List (List String))
    (left : String) : Reading String :=
  match fuel with
  | 0 => throw .notInteger
  | fuel + 1 => do
      match (← get).rest with
      | operator :: _ =>
          if operators.contains operator then
            let operator ← next
            let right ← readLevel fuel tighter
            extend fuel operators tighter (← apply operator left right)
          else return left
      | [] => return left

def readOperand (fuel : Nat) : Reading String :=
  match fuel with
  | 0 => throw .notInteger
  | fuel + 1 => do
      match ← next with
      | "(" => do
          let value ← readLevel fuel levels
          match ← get with
          | ⟨last, []⟩ => throw (.unclosed last)
          | ⟨_, ")" :: _⟩ => do
              let _ ← next
              return value
          | ⟨_, word :: _⟩ => throw (.notClosed word)
      | ")" => throw .unexpectedClose
      | "+" => next
      | "length" => return toString (Text.encodeText (← readOperand fuel)).length
      | "index" => do
          let text ← readOperand fuel
          return toString (placeOf text (← readOperand fuel))
      | "substr" => do
          let text ← readOperand fuel
          let start ← readOperand fuel
          return part text start (← readOperand fuel)
      | word => return word

end

def value (words : List String) : Except ExpressionFault String := do
  let (value, place) ← (readLevel (16 * (words.length + 1)) levels).run { rest := words }
  match place.rest with
  | [] => return value
  | word :: _ => throw (.unexpected word)

example : value ["1", "+", "2", "*", "3"] = .ok "7" := by cbv

example : value ["(", "a", "=", "b"] = .error (.unclosed "b") := by cbv

end Expression

/-- Writes the value of an expression; one that counts as nothing is a failure. -/
def express (call : Call) : Effect :=
  let words :=
    match call.arguments with
    | "--" :: rest => rest
    | words => words
  if words.isEmpty then call.missingOperand 2
  else
    match Expression.value words with
    | .ok value =>
        { call.start.writeText (value ++ "\n") with
          status := if Expression.isNull value then 1 else 0 }
    | .error fault => call.start.complain s!"{call.name}: {fault.message}" 2

end TaskScript.Shell.Program
