/-
Programs that scripts call and that can take the place of an interpreter.  A program is a
function of what it finds when it starts; what it cannot do it complains about and goes
on.  Its options come before its operands or among them.
-/
import TaskScript.Files.Workspace
import TaskScript.Shell.Program.Quoted

namespace TaskScript.Shell

/-- What a program finds when it starts. -/
structure Call where
  name : String
  arguments : List String
  workspace : Workspace
  /-- The variables it can see. -/
  surroundings : List (String × String) := []
  input : List UInt8 := []

/-- What a program leaves behind. -/
structure Effect where
  workspace : Workspace
  /-- What it did not read. -/
  input : List UInt8
  status : Nat := 0
  out : List UInt8 := []
  err : List UInt8 := []

namespace Effect

def write (effect : Effect) (bytes : List UInt8) : Effect :=
  { effect with out := effect.out ++ bytes }

def writeText (effect : Effect) (text : String) : Effect := effect.write (Text.encodeText text)

/-- Adds a line to what went wrong. -/
def warn (effect : Effect) (text : String) : Effect :=
  { effect with err := effect.err ++ Text.encodeText (text ++ "\n") }

/-- Adds a line to what went wrong, which is a failure. -/
def complain (effect : Effect) (text : String) (status : Nat := 1) : Effect :=
  { effect.warn text with status }

end Effect

namespace Call

def start (call : Call) : Effect := { workspace := call.workspace, input := call.input }

/-- Complains about how the program was called. -/
def misused (call : Call) (texts : List String) (status : Nat := 1) : Effect :=
  let effect := texts.foldl (fun effect text => effect.warn s!"{call.name}: {text}") call.start
  effect.complain s!"Try '{call.name} --help' for more information." status

def missingOperand (call : Call) (status : Nat := 1) : Effect :=
  call.misused ["missing operand"] status

def extraOperand (call : Call) (operand : String) : Effect :=
  call.misused [s!"extra operand {Program.quotedText operand}"]

/-- Reads what an operand names, a dash being the input. -/
def readOperand (effect : Effect) (operand : String) :
    Except PathError (List UInt8) × Effect :=
  if operand = "-" then (.ok effect.input, { effect with input := [] })
  else ((effect.workspace.read operand).map Text.encodeText, effect)

/-- Goes through the operands, or the input if there are none. -/
def onOperands (call : Call) (operands : List String)
    (step : Effect → String → Effect) : Effect :=
  (if operands.isEmpty then ["-"] else operands).foldl step call.start

end Call

/-- The options that a program knows. -/
structure OptionTable where
  /-- Letters that say all by themselves. -/
  flags : String := ""
  /-- Letters that a value follows. -/
  valued : String := ""
  /-- Names of options by their letters. -/
  names : List (String × Char) := []
  /-- No option comes after an operand. -/
  leading : Bool := false
  /-- The status of a call with an option that cannot be. -/
  refusal : Nat := 1

/-- What is wrong with an option. -/
inductive OptionFault where
  | unknownLetter (letter : Char)
  | unknownName (word : String)
  | missingValue (letter : Char)
  | missingNamedValue (name : String)
  | unexpectedValue (name : String)
  deriving DecidableEq, Repr

def OptionFault.message : OptionFault → String
  | .unknownLetter letter => s!"invalid option -- '{letter}'"
  | .unknownName word => s!"unrecognized option '{word}'"
  | .missingValue letter => s!"option requires an argument -- '{letter}'"
  | .missingNamedValue name => s!"option '--{name}' requires an argument"
  | .unexpectedValue name => s!"option '--{name}' doesn't allow an argument"

/-- The options of a call, each with its value, and its operands. -/
structure Choices where
  options : List (Char × String) := []
  operands : List String := []
  deriving DecidableEq, Repr

namespace Choices

def has (choices : Choices) (letter : Char) : Bool := choices.options.any (·.1 = letter)

/-- The value of an option, the last one if it is repeated. -/
def value? (choices : Choices) (letter : Char) : Option String :=
  choices.options.reverse.lookup letter

def addOptions (options : List (Char × String)) (choices : Choices) : Choices :=
  { choices with options := options ++ choices.options }

def addOperand (operand : String) (choices : Choices) : Choices :=
  { choices with operands := operand :: choices.operands }

end Choices

/-- What a word of a call is. -/
inductive OptionWord where
  | operand
  /-- No options come after it. -/
  | ending
  | complete (options : List (Char × String))
  /-- The last option takes its value from the next word; `fault` if there is none. -/
  | unfinished (options : List (Char × String)) (letter : Char) (fault : OptionFault)
  | faulty (fault : OptionFault)
  deriving DecidableEq, Repr

/-- With an option in front. -/
def OptionWord.after (letter : Char) : OptionWord → OptionWord
  | .complete options => .complete ((letter, "") :: options)
  | .unfinished options last fault => .unfinished ((letter, "") :: options) last fault
  | word => word

namespace OptionTable

/-- What a word of letters is. -/
def letters (table : OptionTable) : List Char → OptionWord
  | [] => .complete []
  | c :: rest =>
      if table.valued.toList.contains c then
        if rest.isEmpty then .unfinished [] c (.missingValue c)
        else .complete [(c, String.ofList rest)]
      else if table.flags.toList.contains c then (table.letters rest).after c
      else .faulty (.unknownLetter c)

/-- What a word with the name of an option is, which may have its value after an equals
sign. -/
def named (table : OptionTable) (text : List Char) : OptionWord :=
  let name := String.ofList (text.takeWhile (· ≠ '='))
  match table.names.lookup name with
  | none => .faulty (.unknownName ("--" ++ String.ofList text))
  | some letter =>
      match table.valued.toList.contains letter, text.dropWhile (· ≠ '=') with
      | true, _ :: value => .complete [(letter, String.ofList value)]
      | true, [] => .unfinished [] letter (.missingNamedValue name)
      | false, _ :: _ => .faulty (.unexpectedValue name)
      | false, [] => .complete [(letter, "")]

def meaning (table : OptionTable) (word : String) : OptionWord :=
  match word.toList with
  | ['-', '-'] => .ending
  | '-' :: '-' :: name => table.named name
  | '-' :: c :: more => table.letters (c :: more)
  | _ => .operand

/-- Tells options from operands. -/
def read (table : OptionTable) : List String → Except OptionFault Choices
  | [] => .ok {}
  | word :: rest =>
      match table.meaning word with
      | .ending => .ok { operands := rest }
      | .operand =>
          if table.leading then .ok { operands := word :: rest }
          else (table.read rest).map (Choices.addOperand word)
      | .complete options => (table.read rest).map (Choices.addOptions options)
      | .unfinished options letter fault =>
          match rest with
          | [] => .error fault
          | value :: rest =>
              (table.read rest).map (Choices.addOptions (options ++ [(letter, value)]))
      | .faulty fault => .error fault

example : ({ flags := "q", valued := "n" } : OptionTable).read ["-qn", "3", "a"] =
    .ok ⟨[('q', ""), ('n', "3")], ["a"]⟩ := by cbv

example : ({ flags := "r" } : OptionTable).read ["a", "-x"] = .error (.unknownLetter 'x') := by
  cbv

end OptionTable

/-- Carries a call out with its options, unless there is something wrong with them. -/
def Call.withOptions (call : Call) (table : OptionTable) (body : Choices → Effect) : Effect :=
  match table.read call.arguments with
  | .ok choices => body choices
  | .error fault => call.misused [fault.message] table.refusal

end TaskScript.Shell
