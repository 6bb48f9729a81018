/-
The tokens of a shell script, each with the line it ends on.  A document that is asked
for on a line is taken out of the lines below.  What cannot be read is the last token,
so that what stands before it can still be carried out.
-/
import TaskScript.Shell.Word

namespace TaskScript.Shell

/-- What is done with the file that the next word names. -/
inductive Opening where
  | read
  | write
  | append
  | readWrite
  /-- The word names a channel to share. -/
  | share
  deriving DecidableEq, Repr

inductive Token where
  | word (word : Word)
  | newline
  | semicolon
  | doubleSemicolon
  | ampersand
  | and
  | or
  | pipe
  | openParen
  | closeParen
  | redirect (channel : Nat) (opening : Opening)
  /-- A text to be read from a channel. -/
  | document (channel : Nat) (body : Word)
  | finish
  | fault (text : String)
  deriving Repr

structure Lexeme where
  token : Token
  line : Nat
  deriving Repr

def countNewlines (chars : List Char) : Nat := chars.count '\n'

/-- The lines of a document up to the one that ends it, that many lines, and the rest. -/
def splitDocument (delimiter : List Char) (stripTabs : Bool) (fuel : Nat) (chars : List Char) :
    List Char × Nat × List Char :=
  match fuel with
  | 0 => ([], 0, chars)
  | fuel + 1 =>
      match chars with
      | [] => ([], 0, [])
      | chars =>
          let line := chars.takeWhile (· ≠ '\n')
          let ends := chars.drop line.length
          let line := if stripTabs then line.dropWhile (· = '\t') else line
          if line = delimiter then ([], ends.take 1 |>.length, ends.drop 1)
          else
            let (body, lines, rest) := splitDocument delimiter stripTabs fuel (ends.drop 1)
            (line ++ ends.take 1 ++ body, lines + (ends.take 1).length, rest)

/-- The operator at the front that is not a redirection, and the rest. -/
def operator? : List Char → Option (Token × List Char)
  | ';' :: ';' :: rest => some (.doubleSemicolon, rest)
  | ';' :: rest => some (.semicolon, rest)
  | '&' :: '&' :: rest => some (.and, rest)
  | '&' :: rest => some (.ampersand, rest)
  | '|' :: '|' :: rest => some (.or, rest)
  | '|' :: rest => some (.pipe, rest)
  | '(' :: rest => some (.openParen, rest)
  | ')' :: rest => some (.closeParen, rest)
  | _ => none

/-- The redirection at the front but for that of a document, with the channel it is for
unless one is named, and the rest. -/
def redirection? : List Char → Option (Nat × Opening × List Char)
  | '>' :: '>' :: rest => some (1, .append, rest)
  | '>' :: '&' :: rest => some (1, .share, rest)
  | '>' :: '|' :: rest => some (1, .write, rest)
  | '>' :: rest => some (1, .write, rest)
  | '<' :: '&' :: rest => some (0, .share, rest)
  | '<' :: '>' :: rest => some (0, .readWrite, rest)
  | '<' :: rest => some (0, .read, rest)
  | _ => none

/-- Whether a document is asked for at the front, with tabs taken off its lines or not,
and the rest. -/
def documentMark? : List Char → Option (Bool × List Char)
  | '<' :: '<' :: '-' :: rest => some (true, rest)
  | '<' :: '<' :: rest => some (false, rest)
  | _ => none

/-- The digit before a redirection, and the redirection. -/
def splitChannel : List Char → Option Nat × List Char
  | digit :: c :: rest =>
      if digit.isDigit ∧ (c = '<' ∨ c = '>') then (some (digit.toNat - '0'.toNat), c :: rest)
      else (none, digit :: c :: rest)
  | chars => (none, chars)

/-- Reads a document whose end the word at the front names: its body, the number of its
lines, and the text without them. -/
def readDocument (stripTabs : Bool) (chars : List Char) :
    Except String (Word × Nat × List Char) := do
  let (word, rest) ← readWord (chars.dropWhile isBlank)
  let delimiter := word.literal?.getD []
  let line := rest.takeWhile (· ≠ '\n')
  let below := rest.drop line.length
  let (body, lines, after) := splitDocument delimiter stripTabs below.length (below.drop 1)
  let body ←
    match word with
    | [.text _ false] => readBody body
    | _ => pure [.text body true]
  return (body, lines, line ++ below.take 1 ++ after)

/-- Reads tokens from `line` on; `below` lines are to be counted with the end of it. -/
def tokensFrom : Nat → Nat → Nat → List Char → List Lexeme
  | 0, line, _, _ => [⟨.finish, line⟩]
  | _ + 1, line, below, [] => [⟨.finish, line + below⟩]
  | fuel + 1, line, below, c :: rest =>
      let chars := c :: rest
      if isBlank c then tokensFrom fuel line below rest
      else if c = '\n' then
        let line := line + 1 + below
        ⟨.newline, line⟩ :: tokensFrom fuel line 0 rest
      else if c = '#' then tokensFrom fuel line below (rest.dropWhile (· ≠ '\n'))
      else if chars.take 2 = ['\\', '\n'] then tokensFrom fuel (line + 1) below (chars.drop 2)
      else
        match operator? chars with
        | some (token, rest) => ⟨token, line⟩ :: tokensFrom fuel line below rest
        | none =>
            let (channel?, afterChannel) := splitChannel chars
            match documentMark? afterChannel with
            | some (stripTabs, rest) =>
                match readDocument stripTabs rest with
                | .error fault => [⟨.fault fault, line⟩]
                | .ok (body, lines, rest) =>
                    ⟨.document (channel?.getD 0) body, line⟩
                      :: tokensFrom fuel line (below + lines) rest
            | none =>
                match redirection? afterChannel with
                | some (standard, opening, rest) =>
                    ⟨.redirect (channel?.getD standard) opening, line⟩
                      :: tokensFrom fuel line below rest
                | none =>
                    match readWord chars with
                    | .error fault => [⟨.fault fault, line + countNewlines chars⟩]
                    | .ok (word, rest) =>
                        let line := line + countNewlines (chars.take (chars.length - rest.length))
                        ⟨.word word, line⟩ :: tokensFrom fuel line below rest

/-- The tokens of a script; the last one is its end or a fault. -/
def tokens (script : List Char) : List Lexeme := tokensFrom (script.length + 1) 1 0 script

end TaskScript.Shell
