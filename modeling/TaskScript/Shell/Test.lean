/-
Conditions given as words: tests of files, of texts and of integers, with negation,
conjunction, disjunction and parentheses.  How a word is understood depends on how many
follow it.
-/
import TaskScript.Files.Workspace
import TaskScript.Shell.Arithmetic

namespace TaskScript.Shell

/-- What a word can mean in a condition. -/
inductive TestToken where
  | finish
  | operand
  | unary (name : String)
  | binary (name : String)
  | and
  | or
  | not
  | openParen
  | closeParen
  deriving DecidableEq, Repr

/-- Why a condition is none. -/
inductive TestFault where
  | missingBracket
  | missingParenthesis
  | missingArgument (operator : String)
  | unexpected (word : String)
  | notInteger (text : String)
  deriving DecidableEq, Repr

def TestFault.message : TestFault → String
  | .missingBracket => "missing ]"
  | .missingParenthesis => "closing paren expected"
  | .missingArgument operator => s!"{operator}: argument expected"
  | .unexpected "" => "unexpected operator"
  | .unexpected word => s!"{word}: unexpected operator"
  | .notInteger text => s!"Illegal number: {text}"

namespace Test

def unaryNames : List String :=
  ["-b", "-c", "-d", "-e", "-f", "-g", "-h", "-k", "-n", "-p", "-r", "-s", "-t", "-u", "-w", "-x",
    "-z", "-G", "-L", "-O", "-S"]

def binaryNames : List String :=
  ["=", "!=", "<", ">", "-eq", "-ne", "-gt", "-ge", "-lt", "-le", "-nt", "-ot", "-ef"]

/-- The operator that a word is written like. -/
def operator? (word : String) : Option TestToken :=
  if unaryNames.contains word then some (.unary word)
  else if binaryNames.contains word then some (.binary word)
  else
    match word with
    | "-a" => some .and
    | "-o" => some .or
    | "!" => some .not
    | "(" => some .openParen
    | ")" => some .closeParen
    | _ => none

/-- What the first word means where an operand may begin. -/
def meaning : List String → TestToken
  | [] => .finish
  | word :: rest =>
      match operator? word, rest with
      | some (.unary _), [] => .operand
      | some (.unary name), second :: _ :: _ =>
          match operator? second with
          | some (.binary _) => .operand
          | _ => .unary name
      | some .openParen, [] => .operand
      | some token, _ => token
      | none, _ => .operand

/-- Decimal digits with an optional sign and blanks around. -/
def integer? (text : String) : Option Int :=
  let chars := text.toList.dropWhile Char.isWhitespace
  let (sign, digits) : Int × List Char :=
    match chars with
    | '-' :: rest => (-1, rest)
    | '+' :: rest => (1, rest)
    | chars => (1, chars)
  let (digits, rest) := takeDigits digits
  if digits.isEmpty || !rest.all Char.isWhitespace then none
  else
    let value := sign * digitsValue digits
    if value < minInteger ∨ maxInteger < value then none else some value

def integer (text : String) : Except TestFault Int :=
  match integer? text with
  | some value => .ok value
  | none => .error (.notInteger text)

def checkFile (workspace : Workspace) (name path : String) : Bool :=
  match name, workspace.find path with
  | _, .error _ => false
  | "-e", .ok _ | "-r", .ok _ | "-w", .ok _ | "-O", .ok _ | "-G", .ok _ => true
  | "-f", .ok (.file _) => true
  | "-s", .ok (.file contents) => !contents.isEmpty
  | "-d", .ok .directory | "-x", .ok .directory | "-s", .ok .directory => true
  | _, .ok _ => false

def checkUnary (workspace : Workspace) (name word : String) : Except TestFault Bool :=
  match name with
  | "-n" => .ok !word.isEmpty
  | "-z" => .ok word.isEmpty
  | "-t" => (integer word).map fun _ => false
  | name => .ok (checkFile workspace name word)

def checkBinary (workspace : Workspace) (name left right : String) : Except TestFault Bool := do
  match name with
  | "=" => return left == right
  | "!=" => return left != right
  | "<" => return decide (left < right)
  | ">" => return decide (right < left)
  | "-eq" => return (← integer left) == (← integer right)
  | "-ne" => return (← integer left) != (← integer right)
  | "-gt" => return decide ((← integer right) < (← integer left))
  | "-ge" => return decide ((← integer right) ≤ (← integer left))
  | "-lt" => return decide ((← integer left) < (← integer right))
  | "-le" => return decide ((← integer left) ≤ (← integer right))
  | "-ef" =>
      match workspace.locate left, workspace.locate right with
      | .ok a, .ok b => return a == b && workspace.exists? left
      | _, _ => return false
  | _ => return false

/-- The verdict, and the words from the last one that was used on. -/
abbrev Verdict := Except TestFault (Bool × List String)

mutual

def disjunction (workspace : Workspace) (fuel : Nat) (token : TestToken) (words : List String) :
    Verdict :=
  match fuel with
  | 0 => .ok (false, words)
  | fuel + 1 => do
      let (left, words) ← conjunction workspace fuel token words
      if meaning (words.drop 1) = .or then
        let words := words.drop 2
        let (right, words) ← disjunction workspace fuel (meaning words) words
        .ok (left || right, words)
      else .ok (left, words)

def conjunction (workspace : Workspace) (fuel : Nat) (token : TestToken) (words : List String) :
    Verdict :=
  match fuel with
  | 0 => .ok (false, words)
  | fuel + 1 => do
      let (left, words) ← negation workspace fuel token words
      if meaning (words.drop 1) = .and then
        let words := words.drop 2
        let (right, words) ← conjunction workspace fuel (meaning words) words
        .ok (left && right, words)
      else .ok (left, words)

def negation (workspace : Workspace) (fuel : Nat) (token : TestToken) (words : List String) :
    Verdict :=
  match fuel with
  | 0 => .ok (false, words)
  | fuel + 1 =>
      if token = .not then do
        let next := meaning (words.drop 1)
        let words := if next = .finish then words else words.drop 1
        let (value, words) ← negation workspace fuel next words
        .ok (!value, words)
      else primary workspace fuel token words

def primary (workspace : Workspace) (fuel : Nat) (token : TestToken) (words : List String) :
    Verdict :=
  match fuel with
  | 0 => .ok (false, words)
  | fuel + 1 =>
      match token, words with
      | .finish, words => .ok (false, words)
      | .openParen, _ :: inner => do
          if meaning inner = .closeParen then return (false, inner)
          let (value, words) ← disjunction workspace fuel (meaning inner) inner
          if meaning (words.drop 1) = .closeParen then return (value, words.drop 1)
          else throw .missingParenthesis
      | .unary name, _ :: argument :: rest => do
          return (← checkUnary workspace name argument, argument :: rest)
      | .unary name, _ => .error (.missingArgument name)
      | _, left :: operator :: rest =>
          match meaning (operator :: rest), rest with
          | .binary name, [] => .error (.missingArgument name)
          | .binary name, right :: _ => do
              return (← checkBinary workspace name left right, rest)
          | _, _ => .ok (!left.isEmpty, words)
      | _, words => .ok (!(words.headD "").isEmpty, words)

end

/-- Evaluates a condition, of which `token` is what the first word means. -/
def evaluate (workspace : Workspace) (token : TestToken) (words : List String) :
    Except TestFault Bool := do
  let (value, left) ← disjunction workspace (8 * (words.length + 1)) token words
  match left with
  | word :: _ :: _ => .error (.unexpected word)
  | _ => .ok value

/-- Three words with an operator in the middle are a comparison; three or four words can
begin with a negation or stand in parentheses. -/
def check (workspace : Workspace) : List String → Except TestFault Bool
  | [] => .ok false
  | [first, operator, last] =>
      match operator? operator, first, last with
      | some (.binary _), _, _ => evaluate workspace .operand [first, operator, last]
      | _, "(", ")" => evaluate workspace (meaning [operator]) [operator]
      | _, "!", last => (check workspace [operator, last]).map (!·)
      | _, _, _ => evaluate workspace (meaning [first, operator, last]) [first, operator, last]
  | [first, second, third, last] =>
      match first, last with
      | "(", ")" => evaluate workspace (meaning [second, third]) [second, third]
      | "!", last => (check workspace [second, third, last]).map (!·)
      | _, _ =>
          evaluate workspace (meaning [first, second, third, last]) [first, second, third, last]
  | words => evaluate workspace (meaning words) words

end Test

end TaskScript.Shell
