/-
The arguments of the program, read from left to right.  The first fault ends the
reading; so does a request for help or the version, unless an option before it still
wants a value.
-/
namespace TaskScript.CommandLine

/-- Options that take a value. -/
inductive Setting where
  | out
  | plugins
  | interpreter
  deriving DecidableEq, Repr

/-- Options that take none. -/
inductive Switch where
  | comments
  | run
  | verbose
  | help
  | version
  deriving DecidableEq, Repr

inductive Spec where
  | setting (setting : Setting)
  | switch (switch : Switch)
  deriving DecidableEq, Repr

def Spec.ofLong? : String → Option Spec
  | "out" => some (.setting .out)
  | "plugins" => some (.setting .plugins)
  | "python" => some (.setting .interpreter)
  | "debug-comments" => some (.switch .comments)
  | "run" => some (.switch .run)
  | "verbose" => some (.switch .verbose)
  | "help" => some (.switch .help)
  | "version" => some (.switch .version)
  | _ => none

def Spec.ofShort? : Char → Option Spec
  | 'o' => some (.setting .out)
  | 'p' => some (.setting .plugins)
  | 'v' => some (.switch .verbose)
  | 'h' => some (.switch .help)
  | 'V' => some (.switch .version)
  | _ => none

structure Arguments where
  jobs : List String := []
  out? : Option String := none
  plugins? : Option String := none
  interpreter? : Option String := none
  comments : Bool := false
  run : Bool := false
  verbosity : Nat := 0
  deriving DecidableEq, Repr

namespace Arguments

def out (arguments : Arguments) : String := arguments.out?.getD "scripts"

def interpreter (arguments : Arguments) : String := arguments.interpreter?.getD "python3"

end Arguments

inductive UsageError where
  | unknownOption (option : String)
  | missingValue (option : String)
  | unwantedValue (option : String)
  | repeated (option : String)
  | noJobs
  deriving DecidableEq, Repr

def UsageError.message : UsageError → String
  | .unknownOption option => s!"unexpected argument '{option}' found"
  | .missingValue option => s!"a value is required for '{option}' but none was supplied"
  | .unwantedValue option => s!"unexpected value for '{option}' found; no more were expected"
  | .repeated option => s!"the argument '{option}' cannot be used multiple times"
  | .noJobs => "the following required arguments were not provided: <JOBS>..."

/-- What the arguments ask for. -/
inductive Request where
  | generate (arguments : Arguments)
  | help
  | version
  deriving DecidableEq, Repr

/-- Whether an argument can only be an option, or the mark that ends the options. -/
def isOption (argument : String) : Bool :=
  match argument.toList with
  | '-' :: _ :: _ => true
  | _ => false

namespace Arguments

/-- Gives a setting its value, once. -/
def set (arguments : Arguments) (option : String) (setting : Setting) (value : String) :
    Except UsageError Arguments :=
  match setting with
  | .out =>
      if arguments.out?.isSome then .error (.repeated option)
      else .ok { arguments with out? := some value }
  | .plugins =>
      if arguments.plugins?.isSome then .error (.repeated option)
      else .ok { arguments with plugins? := some value }
  | .interpreter =>
      if arguments.interpreter?.isSome then .error (.repeated option)
      else .ok { arguments with interpreter? := some value }

end Arguments

/-- What an argument comes to: the arguments so far, a setting that waits for the next
argument, or a request that ends the reading. -/
inductive Step where
  | read (arguments : Arguments)
  | waiting (arguments : Arguments) (option : String) (setting : Setting)
  | done (request : Request)
  deriving DecidableEq, Repr

/-- Turns a switch on; only the one that counts may be given again. -/
def turnOn (arguments : Arguments) (option : String) : Switch → Except UsageError Step
  | .comments =>
      if arguments.comments then .error (.repeated option)
      else .ok (.read { arguments with comments := true })
  | .run =>
      if arguments.run then .error (.repeated option)
      else .ok (.read { arguments with run := true })
  | .verbose => .ok (.read { arguments with verbosity := arguments.verbosity + 1 })
  | .help => .ok (.done .help)
  | .version => .ok (.done .version)

/-- An option after two dashes; a value may be joined to it by an equals sign. -/
def longOption (arguments : Arguments) (body : List Char) : Except UsageError Step :=
  let name := String.ofList (body.takeWhile (· ≠ '='))
  let option := "--" ++ name
  match Spec.ofLong? name, body.dropWhile (· ≠ '=') with
  | none, _ => .error (.unknownOption option)
  | some (.setting setting), _ :: value =>
      (arguments.set option setting (String.ofList value)).map .read
  | some (.setting setting), [] => .ok (.waiting arguments option setting)
  | some (.switch _), _ :: _ => .error (.unwantedValue option)
  | some (.switch switch), [] => turnOn arguments option switch

/-- Options after one dash.  What follows one that takes a value is the value, after an
equals sign if there is one. -/
def shortOptions (arguments : Arguments) : List Char → Except UsageError Step
  | [] => .ok (.read arguments)
  | c :: rest =>
      let option := String.ofList ['-', c]
      match Spec.ofShort? c with
      | none => .error (.unknownOption option)
      | some (.setting setting) =>
          match rest with
          | [] => .ok (.waiting arguments option setting)
          | '=' :: value => (arguments.set option setting (String.ofList value)).map .read
          | value => (arguments.set option setting (String.ofList value)).map .read
      | some (.switch switch) =>
          match turnOn arguments option switch with
          | .ok (.read arguments) => shortOptions arguments rest
          | other => other

/-- Reads one argument where no value is waited for. -/
def readArgument (arguments : Arguments) (argument : String) : Except UsageError Step :=
  match argument.toList with
  | '-' :: '-' :: body => longOption arguments body
  | '-' :: c :: rest => shortOptions arguments (c :: rest)
  | _ => .ok (.read { arguments with jobs := arguments.jobs ++ [argument] })

/-- Every request for scripts names a job. -/
def finish (arguments : Arguments) : Except UsageError Request :=
  if arguments.jobs.isEmpty then .error .noJobs else .ok (.generate arguments)

def readFrom (arguments : Arguments) : List String → Except UsageError Request
  | [] => finish arguments
  | argument :: rest =>
      if argument = "--" then finish { arguments with jobs := arguments.jobs ++ rest }
      else
        match readArgument arguments argument with
        | .error error => .error error
        | .ok (.done request) => .ok request
        | .ok (.read arguments) => readFrom arguments rest
        | .ok (.waiting arguments option setting) =>
            match rest with
            | [] => .error (.missingValue option)
            | value :: rest =>
                if isOption value then .error (.missingValue option)
                else
                  match arguments.set option setting value with
                  | .error error => .error error
                  | .ok arguments => readFrom arguments rest

/-- Reads the arguments of the program. -/
def Request.parse (arguments : List String) : Except UsageError Request :=
  readFrom {} arguments

example : Request.parse ["-vpx", "a", "--out=b", "--", "-v"] =
    .ok (.generate
      { jobs := ["a", "-v"], out? := some "b", plugins? := some "x", verbosity := 1 }) := by
  cbv

example : Request.parse ["--out", "--help"] = .error (.missingValue "--out") := by cbv

end TaskScript.CommandLine
