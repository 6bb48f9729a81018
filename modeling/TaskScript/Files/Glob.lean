/-
File name patterns.  A question mark stands for a character, a star for any run of
them, brackets for one of a set or none of it; a component of two stars stands for
any number of directories.
-/
import TaskScript.Files.Workspace

namespace TaskScript.Glob

/-- The characters from `first` to `last`; a single one has both ends equal. -/
structure CharSpan where
  first : Char
  last : Char
  deriving DecidableEq, Repr

def CharSpan.contains (span : CharSpan) (c : Char) : Bool :=
  span.first.toNat ≤ c.toNat && c.toNat ≤ span.last.toNat

inductive Token where
  | char (c : Char)
  | anyChar
  | anyRun
  | anyDirectories
  | within (spans : List CharSpan)
  | except (spans : List CharSpan)
  deriving DecidableEq, Repr

inductive Fault where
  | tooManyStars
  | joinedDoubleStar
  | openBracket
  deriving DecidableEq, Repr

def Fault.message : Fault → String
  | .tooManyStars => "wildcards are either regular `*` or recursive `**`"
  | .joinedDoubleStar => "recursive wildcards must form a single path component"
  | .openBracket => "invalid range pattern"

/-- What is wrong with a pattern, and where. -/
structure PatternError where
  position : Nat
  fault : Fault
  deriving DecidableEq, Repr

def PatternError.message (error : PatternError) : String :=
  s!"Pattern syntax error near position {error.position}: {error.fault.message}"

/-- The spans inside brackets: a dash between two characters joins them. -/
def spans : List Char → List CharSpan
  | first :: '-' :: last :: rest => ⟨first, last⟩ :: spans rest
  | c :: rest => ⟨c, c⟩ :: spans rest
  | [] => []

/-- The characters up to the closing bracket, of which the first may be a bracket
itself, and how many were read with it. -/
def bracketBody? : List Char → Option (List Char)
  | [] => none
  | first :: rest =>
      if rest.contains ']' then some (first :: rest.takeWhile (· ≠ ']')) else none

/-- The token of an opening bracket, from what follows it, with the number of characters
it takes. -/
def bracketToken? : List Char → Option (Token × Nat)
  | '!' :: rest => (bracketBody? rest).map fun body => (.except (spans body), body.length + 2)
  | rest => (bracketBody? rest).map fun body => (.within (spans body), body.length + 1)

/-- Reads a pattern from `position` on.  `skip` characters belong to the token before,
`previous` is the character before. -/
def tokensFrom (position skip : Nat) (previous : Option Char) :
    List Char → Except PatternError (List Token)
  | [] => .ok []
  | c :: rest =>
      if 0 < skip then tokensFrom (position + 1) (skip - 1) (some c) rest
      else
        match c with
        | '?' => (tokensFrom (position + 1) 0 (some c) rest).map (.anyChar :: ·)
        | '*' =>
            let stars := (rest.takeWhile (· = '*')).length + 1
            let after := rest.drop (stars - 1)
            if 2 < stars then .error ⟨position + 2, .tooManyStars⟩
            else if stars = 1 then
              (tokensFrom (position + 1) 0 (some c) rest).map (.anyRun :: ·)
            else if previous ≠ none ∧ previous ≠ some '/' then
              .error ⟨position - 1, .joinedDoubleStar⟩
            else
              match after with
              | [] => (tokensFrom (position + 1) 1 (some c) rest).map (.anyDirectories :: ·)
              | '/' :: _ => (tokensFrom (position + 1) 2 (some c) rest).map (.anyDirectories :: ·)
              | _ :: _ => .error ⟨position + 2, .joinedDoubleStar⟩
        | '[' =>
            match bracketToken? rest with
            | some (token, length) =>
                (tokensFrom (position + 1) length (some c) rest).map (token :: ·)
            | none => .error ⟨position, .openBracket⟩
        | c => (tokensFrom (position + 1) 0 (some c) rest).map (.char c :: ·)

def tokens (pattern : List Char) : Except PatternError (List Token) :=
  tokensFrom 0 0 none pattern

/-- Whether a file name is one the tokens stand for. -/
def accepts : List Token → List Char → Bool
  | [], name => name.isEmpty
  | .anyRun :: rest, name => acceptsSuffix rest name
  | .anyDirectories :: rest, name => acceptsSuffix rest name
  | .anyChar :: _, [] | .char _ :: _, [] | .within _ :: _, [] | .except _ :: _, [] => false
  | .anyChar :: rest, _ :: name => accepts rest name
  | .char c :: rest, first :: name => c == first && accepts rest name
  | .within spans :: rest, first :: name => spans.any (·.contains first) && accepts rest name
  | .except spans :: rest, first :: name => !spans.any (·.contains first) && accepts rest name
where
  /-- Whether the tokens stand for the end of the name from some place on. -/
  acceptsSuffix (rest : List Token) : List Char → Bool
    | [] => accepts rest []
    | first :: name => accepts rest (first :: name) || acceptsSuffix rest name

/-- A component of a pattern of paths. -/
inductive Part where
  | exactly (name : String)
  | matching (tokens : List Token)
  | directories
  deriving DecidableEq, Repr

def Part.ofTokens (tokens : List Token) : Part :=
  if tokens = [.anyDirectories] then .directories
  else
    match tokens.mapM fun
      | .char c => some c
      | _ => none with
    | some chars => .exactly (String.ofList chars)
    | none => .matching tokens

/-- Whether a part stands for this file name. -/
def Part.acceptsName (name : String) : Part → Bool
  | .exactly wanted => wanted == name
  | .matching tokens => accepts tokens name.toList
  | .directories => false

/-- Several components of two stars in a row are as good as one. -/
def collapse : List Part → List Part
  | .directories :: .directories :: rest => collapse (.directories :: rest)
  | part :: rest => part :: collapse rest
  | [] => []

structure PathPattern where
  absolute : Bool
  parts : List Part
  /-- Whether the pattern ends in a slash, so that only directories match. -/
  onlyDirectories : Bool
  deriving DecidableEq, Repr

/-- The pattern as a whole is read first, then each component by itself. -/
def PathPattern.parse (pattern : String) : Except PatternError PathPattern := do
  let chars := pattern.toList
  let _ ← tokens chars
  let absolute := Path.isAbsolute pattern
  let pieces := Path.pieces (if absolute then chars.drop 1 else chars)
  let pieces := if pieces.getLast? = some [] ∧ 1 < pieces.length then pieces.dropLast else pieces
  let parts ← pieces.mapM fun piece => (tokens piece).map Part.ofTokens
  return { absolute, parts := collapse parts, onlyDirectories := chars.getLast? == some '/' }

/-- The path of an entry of a directory; the current directory is left out, in whatever
way it is written. -/
def entryPath (directory name : String) : String :=
  if Path.components directory = [.here] then name else Path.join directory name

/-- A path below a directory, by the names on the way. -/
def descendantPath (directory : String) (names : Location) : String :=
  names.foldl entryPath directory

/-- The directory entries for itself and its parent, which only a pattern with a dot in
front can mean. -/
def specialEntries (tokens : List Token) : List String :=
  match tokens with
  | .char '.' :: _ => ["..", "."].filter fun name => accepts tokens name.toList
  | _ => []

/-- The paths that the parts lead to from a path. -/
def expandParts (workspace : Workspace) : List Part → String → List String
  | [], path => [path]
  | .exactly name :: rest, path =>
      let next := entryPath path name
      let present :=
        if name = "." ∨ name = ".." then workspace.isDirectory path else workspace.exists? next
      if present then expandParts workspace rest next else []
  | .matching tokens :: rest, path =>
      match workspace.locate path with
      | .error _ => []
      | .ok location =>
          if workspace.node? location = some .directory then
            ((specialEntries tokens).map (Path.join path) ++
              ((workspace.children location).filter (accepts tokens ·.toList)).map (entryPath path)).flatMap
                (expandParts workspace rest)
          else []
  | .directories :: rest, path =>
      match workspace.locate path with
      | .error _ => []
      | .ok location =>
          if workspace.node? location = some .directory then
            (workspace.descendants location).flatMap fun names =>
              let found := descendantPath path names
              match rest with
              | [] => if workspace.isDirectory found then [found] else []
              | part :: others =>
                  if part.acceptsName (names.getLastD "") then expandParts workspace others found
                  else []
          else []

def PathPattern.expand (workspace : Workspace) (pattern : PathPattern) : List String :=
  (expandParts workspace pattern.parts (if pattern.absolute then "/" else ".")).filter fun path =>
    !pattern.onlyDirectories || workspace.isDirectory path

/-- The paths in the workspace that a pattern stands for. -/
def glob (workspace : Workspace) (pattern : String) : Except PatternError (List String) :=
  (PathPattern.parse pattern).map (·.expand workspace)

end TaskScript.Glob
