/-
Calculations in a shell script: integers of sixty-four bits that wrap around, with the
operators of C but for steps up and down.  An expression is read as a whole before it
is evaluated, since what is skipped must not assign.
-/
import TaskScript.Shell.Format
import TaskScript.Shell.Word

namespace TaskScript.Shell

inductive BinaryOperator where
  | mul | div | rem | add | sub | shiftLeft | shiftRight
  | lt | le | gt | ge | eq | ne | bitAnd | bitXor | bitOr
  deriving DecidableEq, Repr

inductive UnaryOperator where
  | plus | minus | not | complement
  deriving DecidableEq, Repr

inductive Calculation where
  | number (value : Int)
  | name (name : String)
  | unary (operator : UnaryOperator) (operand : Calculation)
  | binary (operator : BinaryOperator) (left right : Calculation)
  | both (left right : Calculation)
  | either (left right : Calculation)
  | choose (condition yes no : Calculation)
  /-- Sets a variable to a value, or to what an operator makes of the old value and it. -/
  | assign (name : String) (operator? : Option BinaryOperator) (value : Calculation)
  deriving Repr

/-- Why an expression has no value. -/
inductive CalculationFault where
  | operandExpected
  | parenthesisExpected
  | colonExpected
  | endExpected
  | divisionByZero
  /-- The value of a variable is no integer. -/
  | notInteger (text : String)
  deriving DecidableEq, Repr

/-- The complaint about an expression. -/
def CalculationFault.message (expression : String) : CalculationFault → String
  | .operandExpected => calculation "expecting primary"
  | .parenthesisExpected => calculation "expecting ')'"
  | .colonExpected => calculation "expecting ':'"
  | .endExpected => calculation "expecting EOF"
  | .divisionByZero => calculation "division by zero"
  | .notInteger text => s!"Illegal number: {text}"
where
  calculation (text : String) : String := s!"arithmetic expression: {text}: \"{expression}\""

/-- The integer of sixty-four bits that a number wraps around to. -/
def wrap (value : Int) : Int := Int.bmod value 18446744073709551616

theorem wrap_eq_self {value : Int} (low : minInteger ≤ value) (high : value ≤ maxInteger) :
    wrap value = value := by
  unfold wrap
  unfold minInteger at low
  unfold maxInteger at high
  rw [Int.bmod_eq_of_le] <;> omega

namespace BinaryOperator

/-- The smaller the number, the closer the operator binds. -/
def level : BinaryOperator → Nat
  | .mul | .div | .rem => 0
  | .add | .sub => 1
  | .shiftLeft | .shiftRight => 2
  | .lt | .le | .gt | .ge => 3
  | .eq | .ne => 4
  | .bitAnd => 5
  | .bitXor => 6
  | .bitOr => 7

/-- How the operators are written, those first that begin with another one. -/
def spellings : List (String × BinaryOperator) :=
  [("<<", .shiftLeft), (">>", .shiftRight), ("<=", .le), (">=", .ge), ("==", .eq), ("!=", .ne),
    ("*", .mul), ("/", .div), ("%", .rem), ("+", .add), ("-", .sub), ("<", .lt), (">", .gt),
    ("&", .bitAnd), ("^", .bitXor), ("|", .bitOr)]

/-- The operators that an equals sign can follow. -/
def canAssign (operator : BinaryOperator) : Bool :=
  !([.lt, .le, .gt, .ge, .eq, .ne] : List BinaryOperator).contains operator

/-- The bits of an integer as a natural number. -/
def bits (value : Int) : Nat := (value % unsignedLimit).toNat

def apply (operator : BinaryOperator) (a b : Int) : Except CalculationFault Int :=
  let truth (p : Bool) : Except CalculationFault Int := .ok (if p then 1 else 0)
  match operator with
  | .mul => .ok (wrap (a * b))
  | .div => if b = 0 then .error .divisionByZero else .ok (wrap (a.tdiv b))
  | .rem => if b = 0 then .error .divisionByZero else .ok (wrap (a.tmod b))
  | .add => .ok (wrap (a + b))
  | .sub => .ok (wrap (a - b))
  | .shiftLeft => .ok (wrap (a * (twoTo (bits b % 64) : Nat)))
  | .shiftRight => .ok (a.fdiv (twoTo (bits b % 64) : Nat))
  | .lt => truth (a < b)
  | .le => truth (a ≤ b)
  | .gt => truth (b < a)
  | .ge => truth (b ≤ a)
  | .eq => truth (a = b)
  | .ne => truth (a ≠ b)
  | .bitAnd => .ok (wrap (bits a &&& bits b : Nat))
  | .bitXor => .ok (wrap (bits a ^^^ bits b : Nat))
  | .bitOr => .ok (wrap (bits a ||| bits b : Nat))

end BinaryOperator

namespace Calculation

def skipBlanks (chars : List Char) : List Char := chars.dropWhile Char.isWhitespace

/-- What follows a spelling at the front. -/
def after? (spelling : String) (chars : List Char) : Option (List Char) :=
  if spelling.toList.isPrefixOf chars then some (chars.drop spelling.length) else none

/-- The operator between two operands at the front that binds at most as loosely as
`level`, and what follows it.  Doubled signs and those with an equals sign are others. -/
def operatorAt? (level : Nat) (chars : List Char) : Option (BinaryOperator × List Char) :=
  if (after? "&&" chars).isSome || (after? "||" chars).isSome then none
  else do
    let (operator, rest) ← BinaryOperator.spellings.findSome? fun (spelling, operator) =>
      (after? spelling chars).map fun rest => (operator, rest)
    if level < operator.level || (operator.canAssign && rest.head? = some '=') then none
    else some (operator, rest)

/-- The operator of an assignment at the front, if it is more than an equals sign, and
what follows. -/
def assignmentAt? (chars : List Char) : Option (Option BinaryOperator × List Char) :=
  match chars with
  | '=' :: '=' :: _ => none
  | '=' :: rest => some (none, rest)
  | chars => do
      let (operator, rest) ← BinaryOperator.spellings.findSome? fun (spelling, operator) =>
        (after? spelling chars).map fun rest => (operator, rest)
      match rest with
      | '=' :: rest => if operator.canAssign then some (some operator, rest) else none
      | _ => none

abbrev Result := Except CalculationFault (Calculation × List Char)

mutual

/-- A name, a number, or an expression in parentheses. -/
def primary (fuel : Nat) (chars : List Char) : Result :=
  match fuel with
  | 0 => .error .operandExpected
  | fuel + 1 =>
      match skipBlanks chars with
      | '(' :: rest => do
          let (inner, rest) ← assignment fuel rest
          match skipBlanks rest with
          | ')' :: rest => .ok (inner, rest)
          | _ => .error .parenthesisExpected
      | '!' :: rest => do
          let (operand, rest) ← primary fuel rest
          .ok (.unary .not operand, rest)
      | '~' :: rest => do
          let (operand, rest) ← primary fuel rest
          .ok (.unary .complement operand, rest)
      | '+' :: rest => do
          let (operand, rest) ← primary fuel rest
          .ok (.unary .plus operand, rest)
      | '-' :: rest => do
          let (operand, rest) ← primary fuel rest
          .ok (.unary .minus operand, rest)
      | c :: rest =>
          if c.isDigit then
            match splitInteger? (c :: rest) with
            | some (value, rest) => .ok (.number (max minInteger (min maxInteger value)), rest)
            | none => .error .operandExpected
          else if isNameStart c then
            .ok (.name (String.ofList (c :: rest.takeWhile isNameChar)), rest.dropWhile isNameChar)
          else .error .operandExpected
      | [] => .error .operandExpected

/-- Operands with operators of at most a level between them, from the left. -/
def operations (fuel level : Nat) (left : Calculation) (chars : List Char) : Result :=
  match fuel with
  | 0 => .ok (left, chars)
  | fuel + 1 =>
      match operatorAt? level (skipBlanks chars) with
      | none => .ok (left, chars)
      | some (operator, rest) => do
          let (right, rest) ← primary fuel rest
          let (right, rest) ←
            if operator.level = 0 then pure (right, rest)
            else operations fuel (operator.level - 1) right rest
          operations fuel level (.binary operator left right) rest

def operand (fuel : Nat) (chars : List Char) : Result :=
  match fuel with
  | 0 => .error .operandExpected
  | fuel + 1 => do
      let (first, rest) ← primary fuel chars
      operations fuel 7 first rest

def conjunction (fuel : Nat) (chars : List Char) : Result :=
  match fuel with
  | 0 => .error .operandExpected
  | fuel + 1 => do
      let (left, rest) ← operand fuel chars
      match after? "&&" (skipBlanks rest) with
      | none => .ok (left, rest)
      | some rest =>
          let (right, rest) ← conjunction fuel rest
          .ok (.both left right, rest)

def disjunction (fuel : Nat) (chars : List Char) : Result :=
  match fuel with
  | 0 => .error .operandExpected
  | fuel + 1 => do
      let (left, rest) ← conjunction fuel chars
      match after? "||" (skipBlanks rest) with
      | none => .ok (left, rest)
      | some rest =>
          let (right, rest) ← disjunction fuel rest
          .ok (.either left right, rest)

def selection (fuel : Nat) (chars : List Char) : Result :=
  match fuel with
  | 0 => .error .operandExpected
  | fuel + 1 => do
      let (condition, rest) ← disjunction fuel chars
      match skipBlanks rest with
      | '?' :: rest =>
          let (yes, rest) ← assignment fuel rest
          match skipBlanks rest with
          | ':' :: rest =>
              let (no, rest) ← selection fuel rest
              .ok (.choose condition yes no, rest)
          | _ => .error .colonExpected
      | _ => .ok (condition, rest)

def assignment (fuel : Nat) (chars : List Char) : Result :=
  match fuel with
  | 0 => .error .operandExpected
  | fuel + 1 =>
      let trimmed := skipBlanks chars
      let name := trimmed.takeWhile isNameChar
      let target? :=
        if isName name then assignmentAt? (skipBlanks (trimmed.drop name.length)) else none
      match target? with
      | some (operator?, rest) => do
          let (value, rest) ← assignment fuel rest
          .ok (.assign (String.ofList name) operator? value, rest)
      | none => selection fuel chars

end

def read (chars : List Char) : Except CalculationFault Calculation := do
  let (calculation, rest) ← assignment (8 * (chars.length + 1)) chars
  match skipBlanks rest with
  | [] => .ok calculation
  | _ => .error .endExpected

/-- The values that variables were given, the newest first. -/
abbrev Assigned := List (String × Int)

/-- The integer that a text stands for; none if it is something else. -/
def integer? (text : String) : Option Int :=
  if text.isEmpty then some 0
  else
    match splitInteger? text.toList with
    | some (value, rest) =>
        if (skipBlanks rest).isEmpty then some (max minInteger (min maxInteger value)) else none
    | none => none

/-- An evaluation assigns to variables. -/
abbrev Evaluation := StateT Assigned (Except CalculationFault)

/-- The value of a variable, where one that is not set counts as zero. -/
def valueOf (lookup : String → Option String) (target : String) : Evaluation Int := do
  match (← get).lookup target with
  | some value => return value
  | none =>
      let text := (lookup target).getD ""
      match integer? text with
      | some value => return value
      | none => throw (.notInteger text)

def truthValue (value : Int) : Int := if value = 0 then 0 else 1

/-- The value of an expression, with what it assigns. -/
def eval (lookup : String → Option String) : Calculation → Evaluation Int
  | .number value => return value
  | .name target => valueOf lookup target
  | .unary operator operand => do
      let value ← eval lookup operand
      return match operator with
        | .plus => value
        | .minus => wrap (-value)
        | .not => if value = 0 then 1 else 0
        | .complement => -value - 1
  | .binary operator left right => do
      let a ← eval lookup left
      let b ← eval lookup right
      operator.apply a b
  | .both left right => do
      if (← eval lookup left) = 0 then return 0
      return truthValue (← eval lookup right)
  | .either left right => do
      if (← eval lookup left) ≠ 0 then return 1
      return truthValue (← eval lookup right)
  | .choose condition yes no => do
      if (← eval lookup condition) ≠ 0 then eval lookup yes else eval lookup no
  | .assign target operator? value => do
      let value ← eval lookup value
      let result ←
        match operator? with
        | none => pure value
        | some operator => do operator.apply (← valueOf lookup target) value
      modify ((target, result) :: ·)
      return result

end Calculation

/-- The value of the text of an expression, and what is assigned on the way. -/
def calculate (lookup : String → Option String) (text : List Char) :
    Except CalculationFault (Int × Calculation.Assigned) := do
  let calculation ← Calculation.read text
  (Calculation.eval lookup calculation).run []

example : (calculate (fun _ => none) "1 + 2 * (3 - 4) << 1".toList).map (·.1) = .ok (-2) := by cbv

example : (calculate (fun _ => none) "7 / 0".toList).map (·.1) = .error .divisionByZero := by cbv

end TaskScript.Shell
