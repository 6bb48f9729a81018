/-
The commands of a shell script.  They are read a line at a time: a line that cannot be
read ends the script, but the lines before it stand.
-/
import TaskScript.Shell.Token

namespace TaskScript.Shell

inductive Redirect where
  | file (channel : Nat) (opening : Opening) (name : Word)
  | document (channel : Nat) (body : Word)
  deriving Repr

inductive Command where
  | nothing
  | simple (line : Nat) (settings : List (String × Word)) (words : List Word)
      (redirects : List Redirect)
  | redirected (line : Nat) (body : Command) (redirects : List Redirect)
  | subshell (body : Command)
  | background (body : Command)
  | pipeline (stages : List Command)
  | negation (body : Command)
  | both (first second : Command)
  | either (first second : Command)
  | sequence (first second : Command)
  | branch (condition body otherwise : Command)
  /-- Runs the body as long as the condition succeeds, or fails if `untilSuccess`. -/
  | repetition (untilSuccess : Bool) (condition body : Command)
  | forEach (line : Nat) (name : String) (words : List Word) (body : Command)
  /-- Runs the commands of the first choice with a pattern that the subject matches. -/
  | choice (line : Nat) (subject : Word) (choices : List (List Word × Command))
  | definition (name : String) (body : Command)
  deriving Repr

/-- Why a line cannot be read, and which. -/
structure Fault where
  line : Nat
  text : String
  deriving DecidableEq, Repr

/-- Words that are part of the grammar where a command can begin. -/
def reservedWords : List String :=
  ["!", "case", "do", "done", "elif", "else", "esac", "fi", "for", "if", "in", "then", "until",
    "while", "\x7b", "\x7d"]

/-- Those before which a list of commands ends. -/
def closingWords : List String :=
  ["do", "done", "elif", "else", "esac", "fi", "then", "\x7d"]

/-- Commands that no function may replace. -/
def fixedCommands : List String :=
  [".", ":", "break", "continue", "eval", "exec", "exit", "export", "readonly", "return", "set",
    "shift", "times", "trap", "unset"]

/-- The reserved word that a token is. -/
def Token.reserved? : Token → Option String
  | .word pieces => pieces.bare?.filter reservedWords.contains
  | _ => none

/-- How a token is called in a complaint. -/
def Token.name (token : Token) : String :=
  match token with
  | .word _ =>
      match token.reserved? with
      | some reserved => s!"\"{reserved}\""
      | none => "word"
  | .newline => "newline"
  | .semicolon => "\";\""
  | .doubleSemicolon => "\";;\""
  | .ampersand => "\"&\""
  | .and => "\"&&\""
  | .or => "\"||\""
  | .pipe => "\"|\""
  | .openParen => "\"(\""
  | .closeParen => "\")\""
  | .redirect .. | .document .. => "redirection"
  | .finish => "end of file"
  | .fault text => text

/-- A reader takes tokens from the front. -/
abbrev Reader := StateT (List Lexeme) (Except Fault)

namespace Reader

def peek : Reader Lexeme := do
  match ← get with
  | [] => return ⟨.finish, 1⟩
  | ⟨.fault text, line⟩ :: _ => throw ⟨line, text⟩
  | lexeme :: _ => return lexeme

def advance : Reader Unit := modify fun
  | [⟨.finish, line⟩] => [⟨.finish, line⟩]
  | lexemes => lexemes.drop 1

def skipNewlines : Reader Unit := modify fun lexemes =>
  lexemes.dropWhile fun lexeme => match lexeme.token with
    | .newline => true
    | _ => false

/-- Complains about a token. -/
def unexpected {α : Type} (lexeme : Lexeme) (expected? : Option String := none) : Reader α :=
  let expected := (expected?.map fun name => s!" (expecting \"{name}\")").getD ""
  throw ⟨lexeme.line, s!"{lexeme.token.name} unexpected{expected}"⟩

/-- Takes a reserved word, which may stand on a later line. -/
def expectReserved (name : String) : Reader Unit := do
  skipNewlines
  let lexeme ← peek
  if lexeme.token.reserved? = some name then advance else unexpected lexeme name

def expectWord (expected? : Option String := none) : Reader Word := do
  let lexeme ← peek
  match lexeme.token with
  | .word word => advance; return word
  | _ => unexpected lexeme expected?

/-- The redirection that a token begins, if it is one. -/
def redirect? (lexeme : Lexeme) : Reader (Option Redirect) := do
  match lexeme.token with
  | .redirect channel opening =>
      advance
      return some (.file channel opening (← expectWord))
  | .document channel body =>
      advance
      return some (.document channel body)
  | _ => return none

def redirects : Nat → Reader (List Redirect)
  | 0 => return []
  | fuel + 1 => do
      match ← redirect? (← peek) with
      | some redirect => return redirect :: (← redirects fuel)
      | none => return []

/-- The words up to the first other token. -/
def words : Nat → Reader (List Word)
  | 0 => return []
  | fuel + 1 => do
      match (← peek).token with
      | .word word =>
          advance
          return word :: (← words fuel)
      | _ => return []

/-- The patterns of a choice, with bars between them.  What stands for one need not be a
word, since the parenthesis after it is missed in any case. -/
def patterns : Nat → Reader (List Word)
  | 0 => return []
  | fuel + 1 => do
      let word : Word :=
        match (← peek).token with
        | .word word => word
        | _ => []
      advance
      match (← peek).token with
      | .pipe =>
          advance
          return word :: (← patterns fuel)
      | _ => return [word]

/-- What a loop goes through: the words after `in`, else the arguments. -/
def loopWords (fuel : Nat) : Reader (List Word) := do
  skipNewlines
  let lexeme ← peek
  if lexeme.token.reserved? = some "in" then
    advance
    let words ← words fuel
    let lexeme ← peek
    match lexeme.token with
    | .newline | .semicolon => advance
    | _ => unexpected lexeme
    return words
  else
    match lexeme.token with
    | .semicolon => advance
    | _ => pure ()
    return [[.parameter "@" .plain [] true]]

def append (begun : Option Command) (command : Command) : Command :=
  match begun with
  | none => command
  | some first => .sequence first command

mutual

/-- Commands up to a word that closes a list or, on one line, up to its end.  Without
`mayBeEmpty` there has to be one. -/
def commandList (fuel : Nat) (oneLine mayBeEmpty : Bool) (begun : Option Command) :
    Reader Command :=
  match fuel with
  | 0 => return begun.getD .nothing
  | fuel + 1 => do
      if !oneLine then skipNewlines
      let lexeme ← peek
      let done := begun.getD .nothing
      match lexeme.token with
      | .newline =>
          advance
          return done
      | .finish => return done
      | token =>
          let closes :=
            match token with
            | .closeParen | .doubleSemicolon => true
            | token => (token.reserved?.map closingWords.contains).getD false
          if closes && !oneLine && (mayBeEmpty || begun.isSome) then return done
          let command ← conditional fuel none
          let lexeme ← peek
          match lexeme.token with
          | .ampersand =>
              advance
              commandList fuel oneLine mayBeEmpty (some (append begun (.background command)))
          | .semicolon =>
              advance
              commandList fuel oneLine mayBeEmpty (some (append begun command))
          | .newline | .finish => commandList fuel oneLine mayBeEmpty (some (append begun command))
          | _ => if oneLine then unexpected lexeme else return append begun command

/-- Pipelines with `&&` and `||` between them, which bind alike from the left; `join`
joins the next one to those before. -/
def conditional (fuel : Nat) (join : Option (Command → Command)) : Reader Command :=
  match fuel with
  | 0 => return .nothing
  | fuel + 1 => do
      let next ← pipeline fuel
      let joined := (join.getD id) next
      match (← peek).token with
      | .and =>
          advance
          skipNewlines
          conditional fuel (some (.both joined))
      | .or =>
          advance
          skipNewlines
          conditional fuel (some (.either joined))
      | _ => return joined

def pipeline (fuel : Nat) : Reader Command :=
  match fuel with
  | 0 => return .nothing
  | fuel + 1 => do
      let negated := (← peek).token.reserved? = some "!"
      if negated then advance
      let first ← command fuel
      let rest ← stages fuel
      let body := if rest.isEmpty then first else .pipeline (first :: rest)
      return if negated then .negation body else body

/-- The further stages of a pipeline. -/
def stages (fuel : Nat) : Reader (List Command) :=
  match fuel with
  | 0 => return []
  | fuel + 1 => do
      match (← peek).token with
      | .pipe =>
          advance
          skipNewlines
          let stage ← command fuel
          return stage :: (← stages fuel)
      | _ => return []

def command (fuel : Nat) : Reader Command :=
  match fuel with
  | 0 => return .nothing
  | fuel + 1 => do
      let lexeme ← peek
      match lexeme.token, lexeme.token.reserved? with
      | .openParen, _ =>
          advance
          let body ← commandList fuel false false none
          let lexeme ← peek
          match lexeme.token with
          | .closeParen => advance
          | _ => unexpected lexeme ")"
          withRedirects fuel lexeme.line (.subshell body)
      | _, some "\x7b" =>
          advance
          let body ← commandList fuel false false none
          expectReserved "\x7d"
          withRedirects fuel lexeme.line body
      | _, some "if" =>
          advance
          let body ← branches fuel
          withRedirects fuel lexeme.line body
      | _, some "while" =>
          advance
          let body ← repetition fuel false
          withRedirects fuel lexeme.line body
      | _, some "until" =>
          advance
          let body ← repetition fuel true
          withRedirects fuel lexeme.line body
      | _, some "for" =>
          advance
          let name ← peek
          match name.token with
          | .word [.text chars false] =>
              if !isName chars then throw ⟨name.line, "Bad for loop variable"⟩
              advance
              let words ← loopWords fuel
              expectReserved "do"
              let body ← commandList fuel false false none
              expectReserved "done"
              withRedirects fuel lexeme.line
                (.forEach lexeme.line (String.ofList chars) words body)
          | _ => throw ⟨name.line, "Bad for loop variable"⟩
      | _, some "case" =>
          advance
          let subject ← expectWord "word"
          expectReserved "in"
          let choices ← choices fuel
          withRedirects fuel lexeme.line (.choice lexeme.line subject choices)
      | _, some _ => unexpected lexeme
      | .word _, none | .redirect .., none | .document .., none =>
          simpleCommand fuel lexeme.line [] [] []
      | _, none => unexpected lexeme

def withRedirects (fuel line : Nat) (body : Command) : Reader Command := do
  match ← redirects fuel with
  | [] => return body
  | redirects => return .redirected line body redirects

/-- What follows `if` or `elif`. -/
def branches (fuel : Nat) : Reader Command :=
  match fuel with
  | 0 => return .nothing
  | fuel + 1 => do
      let condition ← commandList fuel false false none
      expectReserved "then"
      let body ← commandList fuel false false none
      skipNewlines
      match (← peek).token.reserved? with
      | some "elif" =>
          advance
          return .branch condition body (← branches fuel)
      | some "else" =>
          advance
          let otherwise ← commandList fuel false false none
          expectReserved "fi"
          return .branch condition body otherwise
      | _ =>
          expectReserved "fi"
          return .branch condition body .nothing

def repetition (fuel : Nat) (untilSuccess : Bool) : Reader Command :=
  match fuel with
  | 0 => return .nothing
  | fuel + 1 => do
      let condition ← commandList fuel false false none
      expectReserved "do"
      let body ← commandList fuel false false none
      expectReserved "done"
      return .repetition untilSuccess condition body

def choices (fuel : Nat) : Reader (List (List Word × Command)) :=
  match fuel with
  | 0 => return []
  | fuel + 1 => do
      skipNewlines
      if (← peek).token.reserved? = some "esac" then
        advance
        return []
      match (← peek).token with
      | .openParen => advance
      | _ => pure ()
      let words ← patterns fuel
      let lexeme ← peek
      match lexeme.token with
      | .closeParen => advance
      | _ => unexpected lexeme ")"
      let body ← commandList fuel false true none
      skipNewlines
      let lexeme ← peek
      match lexeme.token with
      | .doubleSemicolon =>
          advance
          return (words, body) :: (← choices fuel)
      | token =>
          if token.reserved? = some "esac" then
            advance
            return [(words, body)]
          else unexpected lexeme ";;"

/-- Assignments, words and redirections; or a function, whose name is followed by a pair
of parentheses. -/
def simpleCommand (fuel line : Nat) (settings : List (String × Word)) (words : List Word)
    (redirects : List Redirect) : Reader Command :=
  match fuel with
  | 0 => return .nothing
  | fuel + 1 => do
      let lexeme ← peek
      match ← redirect? lexeme with
      | some redirect => simpleCommand fuel line settings words (redirects ++ [redirect])
      | none =>
          match lexeme.token with
          | .word word =>
              advance
              match word.assignment?.filter fun _ => words.isEmpty with
              | some setting => simpleCommand fuel line (settings ++ [setting]) words redirects
              | none => simpleCommand fuel line settings (words ++ [word]) redirects
          | .openParen =>
              match settings, words, redirects with
              | [], [word], [] => do
                  advance
                  let lexeme ← peek
                  match lexeme.token with
                  | .closeParen => advance
                  | _ => unexpected lexeme ")"
                  match word.bare? with
                  | some name =>
                      if !isName name.toList || fixedCommands.contains name then
                        throw ⟨lexeme.line, "Bad function name"⟩
                      skipNewlines
                      return .definition name (← command fuel)
                  | none => throw ⟨lexeme.line, "Bad function name"⟩
              | _, _, _ => return .simple line settings words redirects
          | _ => return .simple line settings words redirects

end

/-- The lines of a script as commands, up to the first that cannot be read. -/
def lines : Nat → List Lexeme → List Command × Option Fault
  | 0, _ => ([], none)
  | fuel + 1, lexemes =>
      match lexemes with
      | [] | [⟨.finish, _⟩] => ([], none)
      | lexemes =>
          match (commandList (8 * lexemes.length) true false none).run lexemes with
          | .error fault => ([], some fault)
          | .ok (command, rest) =>
              let (commands, fault?) := lines fuel rest
              (command :: commands, fault?)

end Reader

/-- The commands of a script and, if it cannot be read to its end, why. -/
def readCommands (script : List Char) : List Command × Option Fault :=
  let lexemes := tokens script
  Reader.lines (lexemes.length + 1) lexemes

end TaskScript.Shell
