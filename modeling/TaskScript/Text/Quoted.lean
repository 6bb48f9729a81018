/-
Literals of a script.  Truth values are capitalised.  Strings stand in double
quotes, with a backslash before a backslash and a double quote, and `\n`, `\r`, `\t`
for the three control characters that would break or blur the line.  `unquote?`
reads any literal on one line, up to its closing quote, with the escapes that the
reader of the script knows.
-/
namespace TaskScript.Text

/-- The characters that stand for `c` inside a literal. -/
def escapeChar (c : Char) : List Char :=
  match c with
  | '\\' => ['\\', '\\']
  | '"' => ['\\', '"']
  | '\n' => ['\\', 'n']
  | '\r' => ['\\', 'r']
  | '\t' => ['\\', 't']
  | c => [c]

def quoteChars (chars : List Char) : List Char :=
  '"' :: (chars.flatMap escapeChar ++ ['"'])

/-- The literal that reads as `text`. -/
def quote (text : String) : String :=
  String.ofList (quoteChars text.toList)

def truth : Bool → String
  | true => "True"
  | false => "False"

/-- The character that a backslash and this character stand for. -/
def unescapeChar? : Char → Option Char
  | '\\' => some '\\'
  | '\'' => some '\''
  | '"' => some '"'
  | 'a' => some '\x07'
  | 'b' => some '\x08'
  | 't' => some '\t'
  | 'n' => some '\n'
  | 'v' => some '\x0b'
  | 'f' => some '\x0c'
  | 'r' => some '\r'
  | _ => none

/-- Cuts a text at the first double quote without a backslash before it: what stands in front and
what follows.  A line end without a backslash in front of that quote is an error. -/
def cut? : List Char → Option (List Char × List Char)
  | [] => none
  | '"' :: rest => some ([], rest)
  | '\\' :: c :: rest => (cut? rest).map fun (body, after) => ('\\' :: c :: body, after)
  | c :: rest =>
      if c = '\\' ∨ c = '\n' ∨ c = '\r' then none
      else (cut? rest).map fun (body, after) => (c :: body, after)

section Unescape

-- How escapes of more than one character are read, and those that stand for nothing of their own:
-- what they mean and how many characters behind the backslash belong to them.
variable (further : List Char → Option (List Char × Nat))

/-- Reads an escape behind its backslash. -/
def unescape? : List Char → Option (List Char × Nat)
  | [] => none
  | c :: rest =>
      match unescapeChar? c with
      | some meant => some ([meant], 1)
      | none => further (c :: rest)

/-- Reads what stands between the quotes of a literal. -/
def decode? : List Char → Option (List Char)
  | [] => some []
  | c :: rest =>
      if c = '\\' then
        match unescape? further rest with
        | none => none
        | some (meant, count) => (decode? (rest.drop count)).map (meant ++ ·)
      else (decode? rest).map (c :: ·)
termination_by body => body.length
decreasing_by
  · simp only [List.length_drop, List.length_cons]
    omega
  · exact Nat.lt_succ_self _

/-- Reads a literal at the start of a text: its characters and what follows. -/
def unquote? : List Char → Option (List Char × List Char)
  | '"' :: rest => do
      let (body, after) ← cut? rest
      let chars ← decode? further body
      return (chars, after)
  | _ => none

end Unescape

end TaskScript.Text
