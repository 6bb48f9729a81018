/-
Running a shell script.  What surrounds a command decides whether its failure ends the
script; loops, functions and scripts in words are bounded by a number of turns that no
script in use comes near.
-/
import TaskScript.Shell.Preparation

namespace TaskScript.Shell

/-- How a run has ended. -/
inductive Ending where
  | exited (code : Nat)
  | killed
  deriving DecidableEq, Repr

/-- How signals are sent. -/
def usage : String :=
  "Usage: kill [-s sigspec | -signum | -sigspec] [pid | job]... or\nkill -l [exitstatus]"

mutual

/-- Carries out a command; a failure of a tested one does not end the script. -/
def run (fuel : Nat) (tested : Bool) (command : Command) : Action Unit :=
  match fuel with
  | 0 => throw .exhausted
  | fuel + 1 => do
      if (← get).options.noExecution then return ()
      match command with
      | .nothing => return ()
      | .simple line settings words redirects => do
          runSimple fuel tested line settings words redirects
          checkFailure tested
      | .redirected line body redirects => do
          modify fun state => { state with line }
          keepingChannels do
            if ← redirect (substitute fuel) redirects then run fuel tested body
      | .subshell body => do
          runSeparately fuel (run fuel tested body)
          checkFailure tested
      | .background body => do
          keepingChannels do
            modify fun state => state.connect 0 (some .void)
            runSeparately fuel (run fuel false body)
          Action.setStatus 0
      | .pipeline stages => do
          runPipeline fuel tested stages
          checkFailure tested
      | .negation body => do
          run fuel true body
          Builtin.settle ((← get).status ≠ 0)
      | .both first second => do
          run fuel true first
          if (← get).status = 0 then run fuel tested second
      | .either first second => do
          run fuel true first
          if (← get).status ≠ 0 then run fuel tested second
      | .sequence first second => do
          run fuel tested first
          run fuel tested second
      | .branch condition body otherwise => do
          run fuel true condition
          if (← get).status = 0 then run fuel tested body
          else
            match otherwise with
            | .nothing => Action.setStatus 0
            | otherwise => run fuel tested otherwise
      | .repetition untilSuccess condition body => do
          modify fun state => { state with loops := state.loops + 1 }
          repeatBody fuel tested untilSuccess condition body 0
          modify fun state => { state with loops := state.loops - 1 }
      | .forEach line name words body => do
          modify fun state => { state with line }
          let values ← expandWords (substitute fuel) words
          modify fun state => { state with loops := state.loops + 1 }
          Action.setStatus 0
          runEach fuel tested name values body
          modify fun state => { state with loops := state.loops - 1 }
      | .choice line subject choices => do
          modify fun state => { state with line }
          let subject ← expandWhole (substitute fuel) subject
          runChoice fuel tested subject choices
      | .definition name body => do
          modify fun state =>
            { state with functions := (name, body) :: state.functions.filter (·.1 ≠ name) }
          Action.setStatus 0

/-- Carries out the body of a loop once; gives back whether the loop goes on. -/
def runTurn (fuel : Nat) (tested : Bool) (body : Command) : Action Bool :=
  match fuel with
  | 0 => throw .exhausted
  | fuel + 1 =>
      tryCatch (do run fuel tested body; return true) fun halt =>
        match halt with
        | .broken 1 => return false
        | .continued 1 => return true
        | .broken (loops + 2) => leave (.broken (loops + 1))
        | .continued (loops + 2) => leave (.continued (loops + 1))
        | halt => throw halt
where
  leave (halt : Halt) : Action Bool := do
    modify fun state => { state with loops := state.loops - 1 }
    throw halt

/-- Turns of a loop; `status` is how the last one has ended. -/
def repeatBody (fuel : Nat) (tested untilSuccess : Bool) (condition body : Command)
    (status : Nat) : Action Unit :=
  match fuel with
  | 0 => throw .exhausted
  | fuel + 1 => do
      let goesOn ← runTurn fuel true condition
      if goesOn && ((← get).status = 0) != untilSuccess then
        if ← runTurn fuel tested body then
          repeatBody fuel tested untilSuccess condition body (← get).status
      else Action.setStatus (if goesOn then status else 0)

def runEach (fuel : Nat) (tested : Bool) (name : String) (values : List String)
    (body : Command) : Action Unit :=
  match fuel with
  | 0 => throw .exhausted
  | fuel + 1 =>
      match values with
      | [] => return ()
      | value :: rest => do
          Action.assign name value
          if ← runTurn fuel tested body then runEach fuel tested name rest body

/-- Carries out the first choice that a subject matches. -/
def runChoice (fuel : Nat) (tested : Bool) (subject : String)
    (choices : List (List Word × Command)) : Action Unit :=
  match fuel with
  | 0 => throw .exhausted
  | fuel + 1 =>
      match choices with
      | [] => Action.setStatus 0
      | (words, body) :: rest => do
          if ← matchesAny fuel subject words then
            match body with
            | .nothing => Action.setStatus 0
            | body => run fuel tested body
          else runChoice fuel tested subject rest

def matchesAny (fuel : Nat) (subject : String) (words : List Word) : Action Bool :=
  match fuel with
  | 0 => throw .exhausted
  | fuel + 1 =>
      match words with
      | [] => return false
      | word :: rest => do
          let field ← expandCells (substitute fuel) word
          if matchesPattern (pattern field) subject.toList then return true
          else matchesAny fuel subject rest

/-- Carries out each stage by itself, what it writes being there for the next to read. -/
def runPipeline (fuel : Nat) (tested : Bool) (stages : List Command) : Action Unit :=
  match fuel with
  | 0 => throw .exhausted
  | fuel + 1 =>
      match stages with
      | [] => return ()
      | [last] => runSeparately fuel (run fuel tested last)
      | stage :: rest => do
          let bytes ← Action.captured (runSeparately fuel (run fuel tested stage))
          keepingChannels do
            modify fun state => state.feed 0 bytes
            runPipeline fuel tested rest

/-- Carries out an action in a shell of its own. -/
def runSeparately (fuel : Nat) (action : Action Unit) : Action Unit :=
  match fuel with
  | 0 => throw .exhausted
  | fuel + 1 =>
      Action.isolated do
        modify fun state =>
          { state with traps := state.traps.filter (·.2.isEmpty), loops := 0 }
        finish fuel action

/-- Carries out an action to its end and then what is to be done at the end. -/
def finish (fuel : Nat) (action : Action Unit) : Action Unit :=
  match fuel with
  | 0 => throw .exhausted
  | fuel + 1 => do
      endsOnly action
      let state ← get
      match state.traps.lookup "EXIT" with
      | none => return ()
      | some text =>
          set { state with traps := state.traps.filter (·.1 ≠ "EXIT") }
          let completed ← tryCatch (do runText fuel false text.toList; return true) fun halt =>
            match halt with
            | .killed | .exhausted => throw halt
            | _ => return false
          if completed then Action.setStatus state.status
where
  endsOnly (action : Action Unit) : Action Unit :=
    tryCatch action fun halt =>
      match halt with
      | .killed | .exhausted => throw halt
      | _ => return ()

/-- Carries out a script in a word and gives back what it wrote. -/
def substitute (fuel : Nat) (script : List Char) : Action (List UInt8) :=
  match fuel with
  | 0 => throw .exhausted
  | fuel + 1 => do
      let before := (← get).status
      let bytes ← Action.captured (runSeparately fuel (runText fuel false script))
      modify fun state => { state with status := before, outputStatus := state.status }
      return bytes

/-- Carries out the lines of a text. -/
def runText (fuel : Nat) (tested : Bool) (text : List Char) : Action Unit :=
  match fuel with
  | 0 => throw .exhausted
  | fuel + 1 => do
      let (commands, fault?) := readCommands text
      runLines fuel tested commands
      match fault? with
      | none => return ()
      | some fault =>
          modify fun state => { state with line := fault.line }
          Action.complain s!"Syntax error: {fault.text}"
          Action.setStatus 2
          throw .exit

def runLines (fuel : Nat) (tested : Bool) (commands : List Command) : Action Unit :=
  match fuel with
  | 0 => throw .exhausted
  | fuel + 1 =>
      match commands with
      | [] => return ()
      | command :: rest => do
          run fuel tested command
          runLines fuel tested rest

/-- Carries out a command of words with its redirections and assignments, which stay if
nothing but the shell itself is called. -/
def runSimple (fuel : Nat) (tested : Bool) (line : Nat) (settings : List (String × Word))
    (words : List Word) (redirects : List Redirect) : Action Unit :=
  match fuel with
  | 0 => throw .exhausted
  | fuel + 1 => do
      modify fun state => { state with line, outputStatus := 0 }
      let words ← expandCommand (substitute fuel) words
      let isFixed := words.head?.any fixedCommands.contains
      let before := (← get).channels
      let stays := words.head? = some "exec" && words.length = 1
      let body : Action Unit := do
        if !(← redirect (substitute fuel) redirects) then
          if isFixed then throw .exit
        else
          let settings ← expandSettings (substitute fuel) settings
          let inner := (← get).channels
          modify fun state => { state with channels := before }
          trace settings words
          modify fun state => { state with channels := inner }
          match words with
          | [] =>
              for (name, value) in settings do
                Action.assign name value
              modify fun state => { state with status := state.outputStatus }
          | name :: arguments =>
              if isFixed && !((← get).functions.lookup name).isSome then
                for (name, value) in settings do
                  Action.assign name value
                carryOut fuel tested true name arguments
              else withSettings settings (carryOut fuel tested true name arguments)
      if stays then body else keepingChannels body

/-- Carries out a command by its name: a function, a command of the shell or a program. -/
def carryOut (fuel : Nat) (tested withFunctions : Bool) (name : String)
    (arguments : List String) : Action Unit :=
  match fuel with
  | 0 => throw .exhausted
  | fuel + 1 => do
      let state ← get
      match (state.functions.lookup name).filter fun _ => withFunctions with
      | some body => callFunction fuel tested body arguments
      | none =>
          match Builtin.find? name with
          | some action => action arguments
          | none =>
              match name, arguments with
              | "eval", words => evalText fuel tested (" ".intercalate words)
              | ".", [] => Builtin.refuse "." "filename argument required"
              | ".", path :: _ => readIn fuel tested path
              | "exec", [] => Action.setStatus 0
              | "exec", name :: arguments => do
                  modify fun state => { state with context := "exec: " }
                  callProgram fuel name arguments
                  throw .exit
              | "command", "-v" :: words => do
                  match describe? state (words.headD "") with
                  | some (text, _) => do
                      Builtin.write (text ++ "\n")
                      Action.setStatus 0
                  | none => Action.setStatus 127
              | "command", "-V" :: words => do
                  Action.setStatus 0
                  describeAll words
              | "command", name :: arguments => carryOut fuel tested false name arguments
              | "command", [] => Action.setStatus 0
              | "type", words => do
                  Action.setStatus 0
                  describeAll words
              | "kill", words => signal fuel words
              | name, arguments => callProgram fuel name arguments

def callFunction (fuel : Nat) (tested : Bool) (body : Command) (arguments : List String) :
    Action Unit :=
  match fuel with
  | 0 => throw .exhausted
  | fuel + 1 => do
      let before ← get
      set { before with arguments, shadowed? := some [], loops := 0 }
      let restore : Action Unit := modify fun state =>
        let state := (state.shadowed?.getD []).foldl
          (fun state (name, setting) => state.update name fun _ => setting) state
        { state with
          arguments := before.arguments, shadowed? := before.shadowed?, loops := before.loops }
      tryCatch (run fuel tested body) fun halt =>
        match halt with
        | .returned => return ()
        | halt => do
            restore
            throw halt
      restore

def evalText (fuel : Nat) (tested : Bool) (text : String) : Action Unit :=
  match fuel with
  | 0 => throw .exhausted
  | fuel + 1 => do
      Action.setStatus 0
      inContext "eval: " (runText fuel tested text.toList)

/-- Carries out the commands of a file. -/
def readIn (fuel : Nat) (tested : Bool) (path : String) : Action Unit :=
  match fuel with
  | 0 => throw .exhausted
  | fuel + 1 => do
      match (← get).workspace.read path, path.toList.contains '/' with
      | .ok text, true => do
          Action.setStatus 0
          tryCatch (inContext s!"{path}: " (runText fuel tested text.toList)) fun halt =>
            match halt with
            | .returned => return ()
            | halt => throw halt
      | .error .isDirectory, true => Action.setStatus 0
      | _, false => Builtin.refuse "." s!"{path}: not found"
      | .error error, true => do
          let state ← get
          let text := state.dialect.openFault false path error
          match state.dialect with
          | .dash => Builtin.refuse "." text
          | .bash => do
              Action.complainOf text
              Action.setStatus 1

/-- Sends a signal to the script itself, or to no one. -/
def signal (fuel : Nat) (words : List String) : Action Unit :=
  match fuel with
  | 0 => throw .exhausted
  | fuel + 1 => do
      let (isLetter, name, targets) : Bool × String × List String :=
        match words with
        | "-s" :: name :: targets => (false, name, targets)
        | word :: targets =>
            match word.toList with
            | '-' :: name => (true, String.ofList name, targets)
            | _ => (false, "TERM", word :: targets)
        | [] => (false, "TERM", [])
      match signalName? name, targets.head? with
      | none, _ =>
          if isLetter then
            Builtin.refuse "kill" s!"Illegal option -{String.ofList (name.toList.take 1)}"
          else Builtin.refuse "kill" s!"invalid signal number or name: {name}"
      | some _, none => Builtin.refuse "kill" usage
      | some name, some target =>
          if target ≠ ownNumber then
            if (decimal? target).isSome then
              Action.complainOf "kill: No such process"
              Action.setStatus 1
            else Builtin.refuse "kill" s!"Illegal number: {target}"
          else
            Action.setStatus 0
            if !quietSignals.contains name then
              let trap? := (← get).traps.lookup name
              match trap?.filter fun _ => name ≠ "KILL" ∧ name ≠ "STOP" with
              | some text => do
                  runText fuel false text.toList
                  Action.setStatus 0
              | none => throw .killed

/-- Carries out what a name is found to mean along the search path. -/
def callProgram (fuel : Nat) (name : String) (arguments : List String) : Action Unit :=
  match fuel with
  | 0 => throw .exhausted
  | fuel + 1 => do
      match Program.find? ((← get).value? "PATH") name with
      | some (_, program) => runProgram fuel program name arguments
      | none => refuseCommand name

/-- Carries out a program, which may be the shell again. -/
def runProgram (fuel : Nat) (program : Program) (name : String) (arguments : List String) :
    Action Unit :=
  match fuel with
  | 0 => throw .exhausted
  | fuel + 1 => do
      let call := callOf (← get) name arguments
      match program with
      | .plain body => absorb (body call)
      | .shell dialect =>
          runSeparately fuel do
            modify fun state =>
              { state with
                dialect
                settings := state.settings.filter fun (name, setting) =>
                  setting.exported && isName name.toList
                functions := [], context := "", options := {}, status := 0
                shadowed? := none, line := 1 }
            runShell fuel name arguments
      | .launcher =>
          match Program.errand call with
          | .done effect => absorb effect
          | .command surroundings name arguments =>
              match Program.find? (surroundings.lookup "PATH") name with
              | none => absorb (Program.uncallable call name)
              | some (_, program) =>
                  runSeparately fuel do
                    modify fun state => state.surroundedBy surroundings
                    runProgram fuel program name arguments

/-- What a shell does that is called with arguments: it reads the file that the first
names, the text after `-c`, or what there is to read. -/
def runShell (fuel : Nat) (name : String) (arguments : List String) : Action Unit :=
  match fuel with
  | 0 => throw .exhausted
  | fuel + 1 => do
      modify fun state => { state with program := name, line := 0 }
      let isOption (word : String) : Bool :=
        (word.toList.head? == some '-' || word.toList.head? == some '+') &&
          word ≠ "-" && word ≠ "--"
      let options := arguments.takeWhile isOption
      let rest := arguments.dropWhile isOption
      let rest := if rest.head? = some "-" ∨ rest.head? = some "--" then rest.drop 1 else rest
      let isText := options.any fun word => word.toList.contains 'c'
      let isInput := options.any fun word => word.toList.contains 's'
      let letters := options.map fun word => String.ofList (word.toList.filter (· ≠ 'c'))
      let _ ← Builtin.switchAll Action.fail (letters.length + 1)
        (letters.filter fun word => 1 < word.length)
      match isText, if isInput && !isText then [] else rest with
      | true, [] => Action.fail "-c requires an argument"
      | true, text :: rest => do
          modify fun state =>
            { state with program := rest.headD name, arguments := rest.drop 1, line := 1 }
          runText fuel false text.toList
      | false, [] => do
          let state ← get
          let text := Text.decodeBytes (state.unread 0)
          set ({ state with line := 1, arguments := rest }.leave 0 [])
          runText fuel false text.toList
      | false, path :: rest => do
          let state ← get
          match state.workspace.read path with
          | .ok text => do
              set { state with program := path, arguments := rest, line := 1 }
              runText fuel false text.toList
          | .error error => do
              if error = .isDirectory then
                if state.dialect = .dash then return ()
                modify fun state => { state with program := path }
              let (text, status) := state.dialect.scriptFault path error
              Action.complain text
              Action.setStatus status

end

/-- The most turns that loops and calls within each other can take. -/
def turnLimit : Nat := 100000

/-- Calls a program by a name with arguments, for the state and how the call ended. -/
def call (state : State) (name : String) (arguments : List String) : State × Ending :=
  match (callProgram turnLimit name arguments).run state with
  | .ok _ state => (state, .exited (state.status % 256))
  | .error _ state => (state, .killed)

end TaskScript.Shell
