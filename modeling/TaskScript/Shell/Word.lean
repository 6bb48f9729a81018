/-
The words of a shell script and how they are read.  Quotes keep characters as they are;
a dollar sign begins a parameter, a calculation or the output of commands.  What is in
braces or quotes is read again as pieces, so reading is bounded by the length.
-/
namespace TaskScript.Shell

/-- What an operand stands in for, by whether the parameter is set. -/
inductive Fallback where
  /-- For the value if there is none. -/
  | use
  /-- The same, and it becomes the value. -/
  | assign
  /-- A complaint if there is no value. -/
  | complain
  /-- For the value if there is one. -/
  | replace
  deriving DecidableEq, Repr

/-- What is made of the value of a parameter. -/
inductive Form where
  | plain
  | length
  /-- With `orEmpty`, an empty value counts as none. -/
  | fallback (fallback : Fallback) (orEmpty : Bool)
  /-- Takes off what the operand matches at the front or at the end. -/
  | trim (front longest : Bool)
  /-- None that is known. -/
  | unknown
  deriving DecidableEq, Repr

/-- A piece of a word.  What stands outside quotes is split at blanks once its value is
known. -/
inductive Piece where
  | text (chars : List Char) (quoted : Bool)
  | parameter (name : String) (form : Form) (operand : List Piece) (quoted : Bool)
  | arithmetic (expression : List Piece) (quoted : Bool)
  /-- What the commands of a script write. -/
  | output (script : List Char) (quoted : Bool)
  deriving Repr

abbrev Word := List Piece

def isBlank (c : Char) : Bool := c == ' ' || c == '\t'

def isNameStart (c : Char) : Bool := c.isAlpha || c == '_'

def isNameChar (c : Char) : Bool := c.isAlphanum || c == '_'

/-- Whether a text can name a variable. -/
def isName (name : List Char) : Bool :=
  match name with
  | [] => false
  | c :: rest => isNameStart c && rest.all isNameChar

/-- The parameters that have a sign for a name. -/
def isSpecial (c : Char) : Bool := ['@', '*', '#', '?', '-', '$', '!'].contains c

/-- What surrounds the pieces that are read. -/
inductive Surrounding where
  /-- Nothing: blanks and operators end the word. -/
  | bare
  | quotes
  /-- The braces of a parameter, which may stand in quotes. -/
  | braces (quoted : Bool)
  /-- A text that is read to its end, such as a document. -/
  | body
  deriving DecidableEq, Repr

def Surrounding.quoted : Surrounding → Bool
  | .bare | .braces false => false
  | .quotes | .braces true | .body => true

/-- Whether a character ends what is read. -/
def Surrounding.endsAt (c : Char) : Surrounding → Bool
  | .bare => isBlank c || ['\n', ';', '&', '|', '<', '>', '(', ')'].contains c
  | .quotes => c == '"'
  | .braces _ => c == '\x7d'
  | .body => false

/-- Whether a backslash before a character takes its meaning away and goes itself. -/
def Surrounding.unescapes (c : Char) : Surrounding → Bool
  | .bare | .braces false => true
  | .quotes => ['$', '\x60', '"', '\\'].contains c
  | .braces true => ['$', '\x60', '"', '\\', '\x7d'].contains c
  | .body => ['$', '\x60', '\\'].contains c

/-- Puts characters in front of pieces. -/
def addText (chars : List Char) (quoted : Bool) : Word → Word
  | .text more quoted' :: rest =>
      if quoted = quoted' then .text (chars ++ more) quoted :: rest
      else .text chars quoted :: .text more quoted' :: rest
  | word => .text chars quoted :: word

/-- What is open while the end of a script in parentheses is looked for. -/
inductive Open where
  | nothing
  | single
  | double
  deriving DecidableEq, Repr

/-- Splits at the parenthesis that closes the first of `depth + 1` open ones. -/
def splitClosing (depth : Nat) (within : Open) : List Char → Option (List Char × List Char)
  | [] => none
  | '\\' :: next :: rest =>
      if within = .single then (splitClosing depth within (next :: rest)).map (add ['\\'])
      else (splitClosing depth within rest).map (add ['\\', next])
  | c :: rest =>
      match within, c with
      | .single, '\x27' | .double, '"' => (splitClosing depth .nothing rest).map (add [c])
      | .single, _ | .double, _ => (splitClosing depth within rest).map (add [c])
      | .nothing, '\x27' => (splitClosing depth .single rest).map (add [c])
      | .nothing, '"' => (splitClosing depth .double rest).map (add [c])
      | .nothing, '(' => (splitClosing (depth + 1) within rest).map (add [c])
      | .nothing, ')' =>
          match depth with
          | 0 => some ([], rest)
          | depth + 1 => (splitClosing depth within rest).map (add [c])
      | .nothing, _ => (splitClosing depth within rest).map (add [c])
where
  add (chars : List Char) (split : List Char × List Char) : List Char × List Char :=
    (chars ++ split.1, split.2)

/-- Splits at the backquote that ends a script; a backslash keeps one in it. -/
def splitBackquote (quoted : Bool) : List Char → Option (List Char × List Char)
  | [] => none
  | '\x60' :: rest => some ([], rest)
  | '\\' :: next :: rest =>
      let kept : List Char :=
        if ['$', '\x60', '\\'].contains next || (quoted && next == '"') then [next]
        else ['\\', next]
      (splitBackquote quoted rest).map fun (script, rest) => (kept ++ script, rest)
  | c :: rest => (splitBackquote quoted rest).map fun (script, rest) => (c :: script, rest)

/-- The name of a parameter at the front and the rest. -/
def splitName : List Char → Option (List Char × List Char)
  | [] => none
  | c :: rest =>
      if isNameStart c then some (c :: rest.takeWhile isNameChar, rest.dropWhile isNameChar)
      else if isSpecial c then some ([c], rest)
      else none

/-- A name in braces may have several digits. -/
def splitBracedName (chars : List Char) : Option (List Char × List Char) :=
  let digits := chars.takeWhile Char.isDigit
  if digits.isEmpty then splitName chars else some (digits, chars.dropWhile Char.isDigit)

/-- The form that stands after a name in braces, and the rest, which is the operand. -/
def splitForm? : List Char → Option (Form × List Char)
  | '%' :: '%' :: rest => some (.trim false true, rest)
  | '%' :: rest => some (.trim false false, rest)
  | '#' :: '#' :: rest => some (.trim true true, rest)
  | '#' :: rest => some (.trim true false, rest)
  | ':' :: c :: rest => (fallback? c).map fun fallback => (.fallback fallback true, rest)
  | c :: rest => (fallback? c).map fun fallback => (.fallback fallback false, rest)
  | [] => none
where
  fallback? : Char → Option Fallback
    | '-' => some .use
    | '=' => some .assign
    | '?' => some .complain
    | '+' => some .replace
    | _ => none

/-- Reads pieces up to what ends them; the rest begins after a closing sign.  The fault
says what is wrong with the text. -/
def readPieces : Nat → Surrounding → List Char → Except String (Word × List Char)
  | 0, _, _ => .error "Bad substitution"
  | _ + 1, surrounding, [] =>
      match surrounding with
      | .bare | .body => .ok ([], [])
      | .quotes => .error "Unterminated quoted string"
      | .braces _ => .error "Missing '\x7d'"
  | fuel + 1, surrounding, c :: rest =>
      if surrounding.endsAt c then .ok ([], if surrounding = .bare then c :: rest else rest)
      else
        let quoted := surrounding.quoted
        let go (rest : List Char) := readPieces fuel surrounding rest
        match c, rest with
        | '\\', [] => text ['\\'] true (go [])
        | '\\', next :: rest =>
            if next = '\n' then go rest
            else if surrounding.unescapes next then text [next] true (go rest)
            else text ['\\'] true (go (next :: rest))
        | '\x27', rest =>
            if quoted then text ['\x27'] true (go rest)
            else
              let (kept, after) := (rest.takeWhile (· ≠ '\x27'), rest.dropWhile (· ≠ '\x27'))
              match after with
              | [] => .error "Unterminated quoted string"
              | _ :: after => text kept true (go after)
        | '"', rest =>
            if surrounding = .body then text ['"'] true (go rest)
            else
              match readPieces fuel .quotes rest with
              | .error fault => .error fault
              | .ok ([], rest) => text [] true (go rest)
              | .ok (inner, rest) => pieces inner (go rest)
        | '\x60', rest =>
            match splitBackquote quoted rest with
            | none => .error "EOF in backquote substitution"
            | some (script, rest) => pieces [.output script quoted] (go rest)
        | '$', '(' :: '(' :: rest =>
            match splitClosing 0 .nothing rest with
            | some (inner, ')' :: rest) =>
                match readPieces fuel .body inner with
                | .error fault => .error fault
                | .ok (expression, _) => pieces [.arithmetic expression quoted] (go rest)
            | _ => .error "Missing '))'"
        | '$', '(' :: rest =>
            match splitClosing 0 .nothing rest with
            | none => .error "end of file unexpected (expecting \")\")"
            | some (script, rest) => pieces [.output script quoted] (go rest)
        | '$', '\x7b' :: rest =>
            match readBraced fuel quoted rest with
            | .error fault => .error fault
            | .ok (piece, rest) => pieces [piece] (go rest)
        | '$', next :: rest =>
            if next.isDigit then
              pieces [.parameter next.toString .plain [] quoted] (go rest)
            else
              match splitName (next :: rest) with
              | some (name, rest) =>
                  pieces [.parameter (String.ofList name) .plain [] quoted] (go rest)
              | none => text ['$'] quoted (go (next :: rest))
        | c, rest => text [c] quoted (go rest)
where
  text (chars : List Char) (quoted : Bool) (after : Except String (Word × List Char)) :
      Except String (Word × List Char) :=
    after.map fun (word, rest) => (addText chars quoted word, rest)
  pieces (inner : Word) (after : Except String (Word × List Char)) :
      Except String (Word × List Char) :=
    after.map fun (word, rest) => (inner ++ word, rest)
  /-- A parameter in braces, from what follows the opening one. -/
  readBraced (fuel : Nat) (quoted : Bool) (chars : List Char) : Except String (Piece × List Char) :=
    match fuel with
    | 0 => .error "Bad substitution"
    | fuel + 1 =>
        match lengthOf? chars with
        | some (name, rest) => .ok (.parameter (String.ofList name) .length [] quoted, rest)
        | none =>
            let (name, rest) := (splitBracedName chars).getD ([], chars)
            match rest with
            | [] => .error "Missing '\x7d'"
            | '\x7d' :: rest =>
                let form : Form := if name.isEmpty then .unknown else .plain
                .ok (.parameter (String.ofList name) form [] quoted, rest)
            | rest =>
                let (form, rest) :=
                  ((splitForm? rest).filter fun _ => !name.isEmpty).getD (.unknown, rest)
                let inner : Surrounding :=
                  match form with
                  | .trim .. => .braces false
                  | _ => .braces quoted
                match readPieces fuel inner rest with
                | .error fault => .error fault
                | .ok (operand, rest) =>
                    .ok (.parameter (String.ofList name) form operand quoted, rest)
  /-- The name whose value's length is asked for. -/
  lengthOf? : List Char → Option (List Char × List Char)
    | '#' :: rest =>
        match splitBracedName rest with
        | some (name, '\x7d' :: rest) => some (name, rest)
        | _ => none
    | _ => none

/-- The pieces of a text that is read to its end, as within double quotes. -/
def readBody (chars : List Char) : Except String Word :=
  (readPieces (chars.length + 1) .body chars).map (·.1)

/-- The word at the front and the rest. -/
def readWord (chars : List Char) : Except String (Word × List Char) :=
  readPieces (chars.length + 1) .bare chars

/-- The characters of a word as they are written, without quotes. -/
def Word.literal? (word : Word) : Option (List Char) :=
  match word with
  | [] => some []
  | .text chars _ :: rest => (Word.literal? rest).map (chars ++ ·)
  | _ :: _ => none

/-- The characters of a word that is written without quotes or parameters. -/
def Word.bare? : Word → Option String
  | [.text chars false] => some (String.ofList chars)
  | _ => none

/-- The name and the value if a word is an assignment. -/
def Word.assignment? : Word → Option (String × Word)
  | .text chars false :: rest =>
      let name := chars.takeWhile (· ≠ '=')
      match chars.dropWhile (· ≠ '=') with
      | '=' :: value =>
          if isName name then
            some (String.ofList name, if value.isEmpty then rest else .text value false :: rest)
          else none
      | _ => none
  | _ => none

end TaskScript.Shell
