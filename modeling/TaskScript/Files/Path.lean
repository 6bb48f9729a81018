/-
Paths as text.  A path is pieces between slashes; an empty piece and a single dot lead
nowhere.  Joining never tidies the text, and a parent keeps what stands before the
last piece that leads somewhere.
-/
namespace TaskScript.Path

/-- The pieces between the slashes. -/
def pieces (chars : List Char) : List (List Char) :=
  match chars with
  | [] => [[]]
  | c :: rest =>
      if c = '/' then [] :: pieces rest
      else
        match pieces rest with
        | [] => [[c]]
        | piece :: others => (c :: piece) :: others

def isAbsolute (path : String) : Bool := path.toList.head? == some '/'

/-- `path` as seen from `base`; an absolute path stays what it is. -/
def join (base path : String) : String :=
  if isAbsolute path || base.isEmpty then path
  else if base.toList.getLast? == some '/' then base ++ path
  else base ++ "/" ++ path

/-- Whether a piece leads nowhere. -/
def isIdle (piece : List Char) : Bool := piece.isEmpty || piece == ['.']

/-- A leading slash, or a leading dot that stands for the current directory; and the
rest of the path. -/
def splitLead : List Char → List Char × List Char
  | '/' :: rest => (['/'], rest)
  | ['.'] => (['.'], [])
  | '.' :: '/' :: rest => (['.'], '/' :: rest)
  | chars => ([], chars)

/-- Drops the pieces at the end that lead nowhere; the pieces come last one first. -/
def dropIdle (reversed : List (List Char)) : List (List Char) := reversed.dropWhile isIdle

def joinPieces (pieces : List (List Char)) : List Char :=
  ['/'].intercalate pieces

/-- The path without its last piece; none if there is no such piece. -/
def parent? (path : String) : Option String :=
  let (lead, body) := splitLead path.toList
  match dropIdle (pieces body).reverse with
  | [] => if lead = ['.'] then some "" else none
  | _ :: others => some (String.ofList (lead ++ joinPieces (dropIdle others).reverse))

/-- The texts that are left when pieces are taken off the end, each cut after a piece
that leads somewhere; the pieces come last one first. -/
def shortenings (lead : List Char) : List (List Char) → List String
  | [] => if lead = ['.'] then ["."] else []
  | piece :: others =>
      if isIdle piece then shortenings lead others
      else String.ofList (lead ++ joinPieces (piece :: others).reverse) :: shortenings lead others

/-- The path, its parent, the parent of that and so on, as long as there is a parent. -/
def ancestors (path : String) : List String :=
  let (lead, body) := splitLead path.toList
  match shortenings lead (pieces body).reverse with
  | [] => []
  | _ :: shorter => path :: shorter

/-- The last piece, unless it leads up or there is none. -/
def fileName? (path : String) : Option String :=
  match dropIdle (pieces (splitLead path.toList).2).reverse with
  | [] => none
  | piece :: _ => if piece = ['.', '.'] then none else some (String.ofList piece)

/-- The file name up to its last dot; a dot at the front does not count. -/
def stem? (path : String) : Option String := do
  let name ← fileName? path
  let reversed := name.toList.reverse
  match reversed.dropWhile (· ≠ '.') with
  | [] | ['.'] => some name
  | _ :: before => some (String.ofList before.reverse)

/-- One step of a path. -/
inductive Component where
  | root
  | here
  | up
  | name (name : String)
  deriving DecidableEq, Repr

/-- Steps are ordered as listed, names by their characters. -/
instance : Ord Component where
  compare a b := (compare (rank a) (rank b)).then (compare (label a) (label b))
where
  rank : Component → Nat
    | .root => 0
    | .here => 1
    | .up => 2
    | .name _ => 3
  label : Component → String
    | .name name => name
    | _ => ""

/-- The steps of a path; paths with the same steps are the same path. -/
def components (path : String) : List Component :=
  let (lead, body) := splitLead path.toList
  let first : List Component :=
    match lead with
    | ['/'] => [.root]
    | ['.'] => [.here]
    | _ => []
  first ++ ((pieces body).filter fun piece => !isIdle piece).map fun piece =>
    if piece = ['.', '.'] then .up else .name (String.ofList piece)

/-- Order by steps, the shorter path first when one continues the other. -/
def compareComponents : List Component → List Component → Ordering
  | [], [] => .eq
  | [], _ :: _ => .lt
  | _ :: _, [] => .gt
  | a :: as, b :: bs => (compare a b).then (compareComponents as bs)

def compare (a b : String) : Ordering := compareComponents (components a) (components b)

example : parent? "a/./b" = some "a" := by decide

example : parent? "job" = some "" := by decide

example : parent? "/" = none := by decide

example : ancestors "./a//b/." = ["./a//b/.", "./a", "."] := by decide

example : ancestors "/" = [] := by decide

example : join "d" "" = "d/" := by decide

example : stem? "a.b.c" = some "a.b" := by decide

end TaskScript.Path
