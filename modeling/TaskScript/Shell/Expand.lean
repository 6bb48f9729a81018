/-
What words stand for.  A word becomes fragments, whose quotes and values are known; they
are put together as one text, as a pattern, or as fields, which values are split into
and which can be patterns of file names.
-/
import TaskScript.Files.Glob
import TaskScript.Shell.Arithmetic
import TaskScript.Shell.State

namespace TaskScript.Shell

inductive Fragment where
  /-- Stays in one field. -/
  | kept (chars : List Char) (quoted : Bool)
  /-- Is split where separators stand. -/
  | value (chars : List Char)
  /-- One field ends and the next begins. -/
  | boundary
  deriving DecidableEq, Repr

/-- A character of a field; a quoted one is never part of a pattern. -/
structure Cell where
  char : Char
  quoted : Bool
  deriving DecidableEq, Repr

def cells (chars : List Char) (quoted : Bool) : List Cell := chars.map (⟨·, quoted⟩)

def Cell.isWild (cell : Cell) : Bool := !cell.quoted && ['*', '?', '['].contains cell.char

def cellText (field : List Cell) : String := String.ofList (field.map Cell.char)

/-- All fragments as one text. -/
def Fragment.joinAll (fragments : List Fragment) : List Cell :=
  fragments.flatMap fun
    | .kept chars quoted => cells chars quoted
    | .value chars => cells chars false
    | .boundary => [⟨' ', true⟩]

/-- Fields while they are put together. -/
structure Splitting where
  complete : List (List Cell) := []
  begun? : Option (List Cell) := none
  /-- The last field ended at a blank, so that a separator after it ends no other one. -/
  atBlank : Bool := false

namespace Splitting

def add (splitting : Splitting) (more : List Cell) : Splitting :=
  { splitting with begun? := some (splitting.begun?.getD [] ++ more), atBlank := false }

def cut (splitting : Splitting) (atBlank : Bool) : Splitting :=
  { complete := splitting.complete ++ splitting.begun?.toList, atBlank }

/-- Reads a character of a value: blanks among the separators only divide fields, others
end one, be it empty. -/
def feed (separators : List Char) (splitting : Splitting) (c : Char) : Splitting :=
  if !separators.contains c then splitting.add [⟨c, false⟩]
  else if isBlank c || c == '\n' then
    if splitting.begun?.isSome then splitting.cut true else splitting
  else if splitting.begun?.isSome then splitting.cut false
  else if splitting.atBlank then { splitting with atBlank := false }
  else { splitting with complete := splitting.complete ++ [[]] }

def fragment (separators : List Char) (splitting : Splitting) : Fragment → Splitting
  | .kept chars quoted =>
      if chars.isEmpty && !quoted then splitting else splitting.add (cells chars quoted)
  | .value chars => chars.foldl (feed separators) splitting
  | .boundary => splitting.cut false

end Splitting

/-- The fields that fragments make up. -/
def splitFields (separators : List Char) (fragments : List Fragment) : List (List Cell) :=
  ((fragments.foldl (Splitting.fragment separators) {}).cut false).complete

/-- The ranges of a class of characters that brackets can name. -/
def classSpans : String → List Glob.CharSpan
  | "alpha" => [⟨'A', 'Z'⟩, ⟨'a', 'z'⟩]
  | "digit" => [⟨'0', '9'⟩]
  | "alnum" => [⟨'0', '9'⟩, ⟨'A', 'Z'⟩, ⟨'a', 'z'⟩]
  | "upper" => [⟨'A', 'Z'⟩]
  | "lower" => [⟨'a', 'z'⟩]
  | "space" => [⟨'\t', '\r'⟩, ⟨' ', ' '⟩]
  | "blank" => [⟨'\t', '\t'⟩, ⟨' ', ' '⟩]
  | "xdigit" => [⟨'0', '9'⟩, ⟨'A', 'F'⟩, ⟨'a', 'f'⟩]
  | "punct" => [⟨'!', '/'⟩, ⟨':', '@'⟩, ⟨'[', '\x60'⟩, ⟨'\x7b', '~'⟩]
  | _ => []

/-- What brackets hold, up to the closing one, and how many cells that are. -/
def bracketSpans? (first : Bool) : Nat → List Cell → Option (List Glob.CharSpan × Nat)
  | 0, _ | _, [] => none
  | fuel + 1, cell :: rest =>
      if cell = ⟨']', false⟩ ∧ !first then some ([], 1)
      else if cell.char = '[' ∧ (rest.head?.map Cell.char) = some ':' then
        let name := (rest.drop 1).takeWhile fun cell => cell.char ≠ ':'
        (bracketSpans? false fuel (rest.drop (name.length + 3))).map fun (spans, length) =>
          (classSpans (cellText name) ++ spans, length + name.length + 4)
      else
        match rest with
        | ⟨'-', false⟩ :: last :: more =>
            if last = ⟨']', false⟩ then
              (bracketSpans? false fuel rest).map fun (spans, length) =>
                (⟨cell.char, cell.char⟩ :: spans, length + 1)
            else
              (bracketSpans? false fuel more).map fun (spans, length) =>
                (⟨cell.char, last.char⟩ :: spans, length + 3)
        | rest =>
            (bracketSpans? false fuel rest).map fun (spans, length) =>
              (⟨cell.char, cell.char⟩ :: spans, length + 1)

/-- A text as one character for each of its bytes, which is what patterns see. -/
def byteChars (chars : List Char) : List Char :=
  chars.flatMap fun c => (String.utf8EncodeChar c).map fun byte => Char.ofNat byte.toNat

/-- The text of such characters. -/
def ofByteChars (chars : List Char) : List Char :=
  Text.decodeFrom none (chars.map fun c => UInt8.ofNat c.toNat)

/-- The pattern that cells are; `skip` of them belong to brackets before. -/
def patternFrom (skip : Nat) : List Cell → List Glob.Token
  | [] => []
  | cell :: rest =>
      if 0 < skip then patternFrom (skip - 1) rest
      else if cell.quoted then .char cell.char :: patternFrom 0 rest
      else
        match cell.char with
        | '*' => .anyRun :: patternFrom 0 rest
        | '?' => .anyChar :: patternFrom 0 rest
        | '[' =>
            let inverted := rest.head? = some ⟨'!', false⟩
            let body := if inverted then rest.drop 1 else rest
            match bracketSpans? true body.length body with
            | some (spans, length) =>
                (if inverted then .except spans else .within spans)
                  :: patternFrom (if inverted then length + 1 else length) rest
            | none => .char '[' :: patternFrom 0 rest
        | c => .char c :: patternFrom 0 rest

def pattern (field : List Cell) : List Glob.Token :=
  patternFrom 0 (field.flatMap fun cell => cells (byteChars [cell.char]) cell.quoted)

/-- Whether a text is one that the pattern stands for. -/
def matchesPattern (tokens : List Glob.Token) (chars : List Char) : Bool :=
  Glob.accepts tokens (byteChars chars)

/-- The value without the part that a pattern matches at the front or the end, the
longest such part or the shortest. -/
def trimmed (front longest : Bool) (tokens : List Glob.Token) (value : List Char) : List Char :=
  let value := byteChars value
  let lengths := List.range (value.length + 1)
  let candidates := if longest then lengths.reverse else lengths
  let part (length : Nat) : List Char :=
    if front then value.take length else value.drop (value.length - length)
  match candidates.find? fun length => Glob.accepts tokens (part length) with
  | some length =>
      ofByteChars (if front then value.drop length else value.take (value.length - length))
  | none => ofByteChars value

/-- A field cut at its slashes. -/
def fieldParts : List Cell → List (List Cell)
  | [] => [[]]
  | cell :: rest =>
      if cell.char = '/' then [] :: fieldParts rest
      else
        match fieldParts rest with
        | [] => [[cell]]
        | part :: others => (cell :: part) :: others

/-- The paths that the parts lead to after `path`.  A dot at the front of a name has to be
written. -/
def pathsFrom (workspace : Workspace) (path : String) : List (List Cell) → List String
  | [] => if workspace.exists? (if path.isEmpty then "." else path) then [path] else []
  | part :: rest =>
      let slash := if rest.isEmpty then "" else "/"
      if part.any Cell.isWild then
        match workspace.locate (if path.isEmpty then "." else path) with
        | .error _ => []
        | .ok location =>
            let tokens := pattern part
            let wanted (name : String) : Bool :=
              matchesPattern tokens name.toList
                && (name.toList.head? != some '.' || tokens.head? == some (.char '.'))
            ((workspace.children location).filter wanted).flatMap fun name =>
              pathsFrom workspace (path ++ name ++ slash) rest
      else pathsFrom workspace (path ++ cellText part ++ slash) rest

/-- The paths that a field stands for, or its text if there are none. -/
def matchingPaths (state : State) (field : List Cell) : List String :=
  if state.options.noGlob || !field.any Cell.isWild then [cellText field]
  else
    match pathsFrom state.workspace "" (fieldParts field) with
    | [] => [cellText field]
    | paths => paths

/-- A value outside quotes is split. -/
def valueFragment (quoted : Bool) (chars : List Char) : Fragment :=
  if quoted then .kept chars true else .value chars

/-- An operand outside quotes is split as a value is. -/
def asValue (quoted : Bool) (fragments : List Fragment) : List Fragment :=
  if quoted then .kept [] true :: fragments
  else fragments.map fun
    | .kept chars false => .value chars
    | fragment => fragment

/-- The fragments of the arguments: in quotes each is a field, or all one. -/
def argumentFragments (state : State) (name : String) (quoted : Bool) : List Fragment :=
  if name = "*" ∧ quoted then [.kept (state.joiner.intercalate state.arguments).toList true]
  else
    ((state.arguments.map fun argument => valueFragment quoted argument.toList).intersperse
      .boundary)

/-- How a script in a word is carried out: it gives back what it wrote. -/
abbrev Substitute := List Char → Action (List UInt8)

/-- The text of what a script wrote, without the line ends at its end. -/
def outputChars (bytes : List UInt8) : List Char :=
  ((Text.decodeBytes bytes).toList.reverse.dropWhile (· = '\n')).reverse.filter (· ≠ '\x00')

/-- Evaluates an expression and carries out what it assigns. -/
def evaluate (expression : List Char) : Action Int := do
  match calculate (← get).value? expression with
  | .error fault => Action.fail (fault.message (String.ofList expression))
  | .ok (value, assigned) =>
      for (name, value) in assigned.reverse do
        Action.assign name (toString value)
      return value

mutual

def expandPiece (substitute : Substitute) : Piece → Action (List Fragment)
  | .text chars quoted => return [.kept chars quoted]
  | .output script quoted => do
      return [valueFragment quoted (outputChars (← substitute script))]
  | .arithmetic expression quoted => do
      let fragments ← expandPieces substitute expression
      let value ← evaluate ((Fragment.joinAll fragments).map Cell.char)
      return [valueFragment quoted (toString value).toList]
  | .parameter name form operand quoted => do
      let state ← get
      let value? := state.parameter? name
      let value : List Fragment :=
        if name = "@" ∨ name = "*" then argumentFragments state name quoted
        else [valueFragment quoted (value?.getD "").toList]
      let isAll := name = "@" ∨ name = "*"
      match form with
      | .unknown => Action.fail "Bad substitution"
      | .plain =>
          if value?.isNone && state.options.noUnset && !isAll then
            Action.fail s!"{name}: {state.dialect.unsetFault}"
          return value
      | .length =>
          if value?.isNone && state.options.noUnset && !isAll then
            Action.fail s!"{name}: {state.dialect.unsetFault}"
          return [valueFragment quoted (toString (value?.getD "").utf8ByteSize).toList]
      | .fallback fallback orEmpty =>
          let usable :=
            match value? with
            | some text => !(orEmpty && text.isEmpty)
            | none => false
          match fallback with
          | .use => if usable then return value else
              return asValue quoted (← expandPieces substitute operand)
          | .replace => if !usable then return [valueFragment quoted []] else
              return asValue quoted (← expandPieces substitute operand)
          | .assign => if usable then return value else
              let fragments ← expandPieces substitute operand
              let text := cellText (Fragment.joinAll fragments)
              Action.assign name text
              return [valueFragment quoted text.toList]
          | .complain => if usable then return value else
              let fragments ← expandPieces substitute operand
              let text := cellText (Fragment.joinAll fragments)
              let complaint :=
                if operand.isEmpty then state.dialect.emptyFault orEmpty else text
              Action.fail s!"{name}: {complaint}"
      | .trim front longest =>
          let fragments ← expandPieces substitute operand
          let tokens := pattern (Fragment.joinAll fragments)
          return value.map fun
            | .kept chars quoted => .kept (trimmed front longest tokens chars) quoted
            | .value chars => .value (trimmed front longest tokens chars)
            | .boundary => .boundary

def expandPieces (substitute : Substitute) : List Piece → Action (List Fragment)
  | [] => return []
  | piece :: rest => do
      let fragments ← expandPiece substitute piece
      return fragments ++ (← expandPieces substitute rest)

end

/-- The pieces with the home directory in the place of a tilde at the front. -/
def expandTilde (state : State) : Word → Word
  | .text ('~' :: chars) false :: rest =>
      let whole := chars.isEmpty && rest.isEmpty || chars.head? == some '/'
      match (state.value? "HOME").filter fun _ => whole with
      | some home => .text home.toList true :: .text chars false :: rest
      | none => .text ('~' :: chars) false :: rest
  | word => word

def expandCells (substitute : Substitute) (word : Word) : Action (List Cell) := do
  return Fragment.joinAll (← expandPieces substitute (expandTilde (← get) word))

/-- The text of a word that is not split. -/
def expandWhole (substitute : Substitute) (word : Word) : Action String := do
  return cellText (← expandCells substitute word)

/-- The words that a word stands for. -/
def expandWord (substitute : Substitute) (word : Word) : Action (List String) := do
  let fragments ← expandPieces substitute (expandTilde (← get) word)
  let state ← get
  return (splitFields state.separators fragments).flatMap (matchingPaths state)

def expandWords (substitute : Substitute) : List Word → Action (List String)
  | [] => return []
  | word :: rest => do
      let fields ← expandWord substitute word
      return fields ++ (← expandWords substitute rest)

example : splitFields [' ', ','] [.value "a , b,,c".toList] =
    ["a", "b", "", "c"].map fun text => cells text.toList false := by decide +kernel

example : pattern (cells "a[!b]*".toList false) =
    [.char 'a', .except [⟨'b', 'b'⟩], .anyRun] := by decide +kernel

end TaskScript.Shell
