/-
Programs that write what follows from their arguments: names out of paths, numbers in
order, texts in a format.
-/
import TaskScript.Shell.Format
import TaskScript.Shell.Program.Basic
import TaskScript.Shell.Test

namespace TaskScript.Shell.Program

/-- What stands after the last slash but for slashes at the end. -/
def lastName (path : String) : String :=
  let reversed := path.toList.reverse.dropWhile (· = '/')
  if reversed.isEmpty then if path.isEmpty then "" else "/"
  else String.ofList (reversed.takeWhile (· ≠ '/')).reverse

/-- A name without an ending, unless it is nothing else. -/
def withoutEnding (name ending : String) : String :=
  let kept := name.length - ending.length
  if ending.toList.isSuffixOf name.toList ∧ 0 < kept then
    String.ofList (name.toList.take kept)
  else name

/-- The last name of a path, without an ending that the second operand gives. -/
def baseName (call : Call) : Effect :=
  call.withOptions
    { flags := "az", valued := "s", leading := true
      names := [("multiple", 'a'), ("suffix", 's'), ("zero", 'z')] } fun choices =>
    let lineEnd := if choices.has 'z' then "\x00" else "\n"
    let answer (ending : String) (paths : List String) : Effect :=
      call.start.writeText (String.join (paths.map fun path =>
        withoutEnding (lastName path) ending ++ lineEnd))
    match choices.has 'a' || choices.has 's', choices.operands with
    | _, [] => call.missingOperand
    | true, paths => answer ((choices.value? 's').getD "") paths
    | false, [path] => answer "" [path]
    | false, [path, ending] => answer ending [path]
    | false, _ :: _ :: third :: _ => call.extraOperand third

/-- What stands before the last name. -/
def parentName (path : String) : String :=
  let reversed := path.toList.reverse.dropWhile (· = '/')
  let before := (reversed.dropWhile (· ≠ '/')).dropWhile (· = '/')
  if before.isEmpty then if path.toList.head? = some '/' then "/" else "."
  else String.ofList before.reverse

/-- Each path without its last name. -/
def directoryName (call : Call) : Effect :=
  call.withOptions { flags := "z", leading := true, names := [("zero", 'z')] } fun choices =>
    let lineEnd := if choices.has 'z' then "\x00" else "\n"
    if choices.operands.isEmpty then call.missingOperand
    else
      call.start.writeText
        (String.join (choices.operands.map fun path => parentName path ++ lineEnd))

/-- The digits of an integer with zeros before them up to a width. -/
def zeroPadded (width : Nat) (n : Int) : String :=
  let digits := toString n.natAbs
  let sign := if n < 0 then "-" else ""
  sign ++ "".pushn '0' (width - digits.length - sign.length) ++ digits

/-- The integers from the first to the last operand by steps.  A negative number is no
option. -/
def sequence (call : Call) : Effect :=
  let isNegative (word : String) : Bool :=
    match word.toList with
    | '-' :: c :: _ => c.isDigit || c == '.'
    | _ => false
  let lead := call.arguments.takeWhile (!isNegative ·)
  { call with arguments := lead }.withOptions
    { flags := "w", valued := "sf", leading := true
      names := [("separator", 's'), ("equal-width", 'w'), ("format", 'f')] } fun choices =>
    let operands := choices.operands ++ call.arguments.drop lead.length
    let unread? := operands.find? fun word => (Test.integer? word).isNone
    match operands.map Test.integer?, unread?, operands[3]? with
    | [], _, _ => call.missingOperand
    | _, _, some operand => call.extraOperand operand
    | _, some word, _ =>
        call.misused [s!"invalid floating point argument: {quotedText word}"]
    | numbers, none, none =>
        let (first, step, last) : Int × Int × Int :=
          match numbers.filterMap id with
          | [last] => (1, 1, last)
          | [first, last] => (first, 1, last)
          | [first, step, last] => (first, step, last)
          | _ => (1, 1, 0)
        if step = 0 then
          let word := operands.getD 1 ""
          call.misused [s!"invalid Zero increment value: {quotedText word}"]
        else
          let count := ((last - first).fdiv step + 1).toNat
          let width :=
            if choices.has 'w' then max (toString first).length (toString last).length else 0
          let numbers := (List.range count).map fun (i : Nat) =>
            zeroPadded width (first + step * Int.ofNat i)
          let separator := (choices.value? 's').getD "\n"
          if numbers.isEmpty then call.start
          else call.start.writeText (separator.intercalate numbers ++ "\n")

/-- Writes its words, escapes only if that is asked for. -/
def echo (call : Call) : Effect :=
  let isOption (word : String) : Bool :=
    match word.toList with
    | '-' :: letters => !letters.isEmpty && letters.all ['n', 'e', 'E'].contains
    | _ => false
  let options := (call.arguments.takeWhile isOption).flatMap fun word => word.toList.drop 1
  let text := " ".intercalate (call.arguments.dropWhile isOption)
  let escapes := (options.filter (· ≠ 'n')).getLast? = some 'e'
  let (bytes, stopped) := if escapes then unescape text else (Text.encodeText text, false)
  call.start.write (if stopped || options.contains 'n' then bytes else bytes ++ [10])

/-- How the program words what is wrong with a format or an argument. -/
def wording : PrintFault → String
  | .missingLetter => "%: invalid conversion specification"
  | .unknownDirective directive => s!"%{directive}: invalid conversion specification"
  | .notNumber text => s!"{quotedText text}: expected a numeric value"
  | .partlyNumber text => s!"{quotedText text}: value not completely converted"
  | .outOfRange text => s!"{quotedText text}: Numerical result out of range"

def print (call : Call) : Effect :=
  let words :=
    match call.arguments with
    | "--" :: rest => rest
    | words => words
  match words with
  | [] => call.missingOperand
  | format :: arguments =>
      let printing := printFormat format arguments
      let effect := printing.faults.foldl (fun effect fault =>
        effect.warn s!"{call.name}: {wording fault}") call.start
      let effect :=
        match printing.stopped, printing.arguments with
        | false, argument :: _ =>
            effect.warn (s!"{call.name}: warning: ignoring excess arguments, starting with " ++
              quotedText argument)
        | _, _ => effect
      { effect.write printing.bytes with status := min printing.status 1 }

def test (call : Call) : Effect :=
  match Test.check call.workspace call.arguments with
  | .ok true => call.start
  | .ok false => { call.start with status := 1 }
  | .error fault => call.start.complain s!"{call.name}: {fault.message}" 2

/-- Waits for nothing, but looks at how long it should. -/
def sleep (call : Call) : Effect :=
  call.withOptions {} fun choices =>
    let faulty := choices.operands.filter fun word => !isInterval word.toList
    if choices.operands.isEmpty then call.missingOperand
    else if faulty.isEmpty then call.start
    else call.misused (faulty.map fun word => s!"invalid time interval {quotedText word}")
where
  isInterval (chars : List Char) : Bool :=
    let number :=
      match chars.getLast? with
      | some c => if ['s', 'm', 'h', 'd'].contains c then chars.dropLast else chars
      | none => chars
    match Binary64.ofText? (String.ofList number) with
    | some x => !x.isNaN && (!x.isNegative || x.isZero)
    | none => false

/-- The current directory from the root on. -/
def currentPath (workspace : Workspace) : String := "/" ++ "/".intercalate workspace.current

def writeCurrentPath (call : Call) : Effect :=
  call.withOptions { flags := "LP", names := [("logical", 'L'), ("physical", 'P')] } fun choices =>
    let effect := call.start.writeText (currentPath call.workspace ++ "\n")
    if choices.operands.isEmpty then effect
    else effect.warn s!"{call.name}: ignoring non-option arguments"

/-- Writes the values of variables, or all variables with their values. -/
def writeVariables (call : Call) : Effect :=
  call.withOptions { flags := "0", leading := true, names := [("null", '0')], refusal := 2 }
    fun choices =>
      let lineEnd := if choices.has '0' then "\x00" else "\n"
      if choices.operands.isEmpty then
        call.start.writeText (String.join (call.surroundings.map fun (name, value) =>
          s!"{name}={value}{lineEnd}"))
      else
        choices.operands.foldl (fun effect name =>
          match call.surroundings.lookup name with
          | some value => effect.writeText (value ++ lineEnd)
          | none => { effect with status := 1 }) call.start

/-- What a call that changes variables for another one comes to. -/
inductive Errand where
  | done (effect : Effect)
  | command (surroundings : List (String × String)) (name : String) (arguments : List String)

/-- Whether a word gives a variable a value. -/
def isSetting (word : String) : Bool := word.toList.contains '='

def settingOf (word : String) : String × String :=
  (String.ofList (word.toList.takeWhile (· ≠ '=')),
    String.ofList ((word.toList.dropWhile (· ≠ '=')).drop 1))

/-- Changes variables and then writes them all, unless there is something to call. -/
def errand (call : Call) : Errand :=
  let table : OptionTable :=
    { flags := "i0v", valued := "u", leading := true, refusal := 125
      names := [("ignore-environment", 'i'), ("unset", 'u'), ("null", '0')] }
  match table.read call.arguments with
  | .error fault => .done (call.misused [fault.message] table.refusal)
  | .ok choices =>
      let (bare, words) : Bool × List String :=
        match choices.operands with
        | "-" :: words => (true, words)
        | words => (choices.has 'i', words)
      let kept := call.surroundings.filter fun (name, _) =>
        !bare && !choices.options.contains ('u', name)
      let added := (words.takeWhile isSetting).map settingOf
      let surroundings := added.foldl (fun known (name, value) =>
        if (known.lookup name).isSome then
          known.map fun entry => if entry.1 = name then (name, value) else entry
        else known ++ [(name, value)]) kept
      match words.dropWhile isSetting with
      | [] =>
          let lineEnd := if choices.has '0' then "\x00" else "\n"
          .done (call.start.writeText (String.join (surroundings.map fun (name, value) =>
            s!"{name}={value}{lineEnd}")))
      | name :: arguments => .command surroundings name arguments

/-- The complaint that a command cannot be called. -/
def uncallable (call : Call) (name : String) : Effect :=
  let found := if name.toList.contains '/' then call.workspace.find name else .error .missing
  let error := match found with
    | .ok _ => "Permission denied"
    | .error error => error.message
  let isMissing := error = PathError.message .missing
  let effect := call.start.complain s!"{call.name}: {quotedText name}: {error}"
    (if isMissing then 127 else 126)
  if isMissing && name.toList.any Char.isWhitespace then
    effect.complain s!"{call.name}: use -[v]S to pass options in shebang lines" 127
  else effect

example : withoutEnding (lastName "d/job.json") ".json" = "job" := by decide +kernel

example : parentName "//a//b/" = "//a" := by decide +kernel

example : zeroPadded 3 (-1) = "-01" := by decide +kernel

end TaskScript.Shell.Program
