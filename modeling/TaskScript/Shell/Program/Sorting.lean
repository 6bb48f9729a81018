/-
Programs that put lines in order and that join equal ones.
-/
import TaskScript.Shell.Program.Lines

namespace TaskScript.Shell.Program

/-- The number at the front of a line, which counts as zero if there is none. -/
def leadingNumber (line : List UInt8) : Int :=
  let chars := (Text.decodeBytes line).toList.dropWhile isBlank
  match chars with
  | '-' :: rest => -(digitsValue (rest.takeWhile Char.isDigit) : Int)
  | chars => digitsValue (chars.takeWhile Char.isDigit)
where
  isBlank (c : Char) : Bool := c == ' ' || c == '\t'

def bytesBefore : List UInt8 → List UInt8 → Bool
  | [], _ => true
  | _ :: _, [] => false
  | a :: as, b :: bs => if a = b then bytesBefore as bs else a < b

/-- The lines in order.  Nothing is written if a file cannot be read. -/
def sortLines (call : Call) : Effect :=
  call.withOptions
    { flags := "bnrsu", refusal := 2
      names := [("numeric-sort", 'n'), ("reverse", 'r'), ("unique", 'u')] } fun choices =>
    let faults := choices.operands.filterMap fun operand =>
      match operand == "-", call.workspace.read operand with
      | false, .error error => some (operand, error)
      | _, _ => none
    match faults.find? (·.2 ≠ .isDirectory), faults.head? with
    | some (operand, error), _ =>
        call.start.complain
          s!"{call.name}: cannot read: {plainName operand}: {error.message}" 2
    | none, some (operand, error) =>
        call.start.complain
          s!"{call.name}: read failed: {plainName operand}: {error.message}" 2
    | none, none =>
        let (lines, effect) := readLines call choices.operands
        let text (line : List UInt8) : List UInt8 := line.takeWhile (· ≠ 10)
        let before (a b : List UInt8) : Bool :=
          if choices.has 'n' ∧ (choices.has 'u' ∨ leadingNumber a ≠ leadingNumber b) then
            decide (leadingNumber a ≤ leadingNumber b)
          else bytesBefore (text a) (text b)
        let same (a b : List UInt8) : Bool := before a b && before b a
        let sorted := lines.mergeSort before
        let sorted := if choices.has 'u' then dropRepeats same sorted else sorted
        effect.write (if choices.has 'r' then sorted.reverse else sorted).flatten
where
  dropRepeats (same : List UInt8 → List UInt8 → Bool) (lines : List (List UInt8)) :
      List (List UInt8) :=
    (lines.foldl (fun kept line =>
      match kept with
      | last :: _ => if same last line then kept else line :: kept
      | [] => [line]) []).reverse

/-- Equal lines that come one after another, with their number. -/
def runsOfLines (lines : List (List UInt8)) : List (List UInt8 × Nat) :=
  (lines.foldl (fun runs line =>
    match runs with
    | (last, n) :: rest => if last = line then (last, n + 1) :: rest else (line, 1) :: runs
    | [] => [(line, 1)]) ([] : List (List UInt8 × Nat))).reverse

/-- Runs of equal lines as one each, with their number if that is asked for; a second
operand is the file to write to. -/
def uniqueLines (call : Call) : Effect :=
  call.withOptions
    { flags := "cduiz", valued := "fsw"
      names := [("count", 'c'), ("repeated", 'd'), ("unique", 'u')] } fun choices =>
    let source := choices.operands.headD "-"
    let target? := choices.operands[1]?.filter (· ≠ "-")
    match choices.operands[2]?, call.workspace.read source with
    | some operand, _ => call.extraOperand operand
    | none, found =>
        let fault? : Option String :=
          match source == "-", found with
          | true, _ | _, .ok _ => none
          | _, .error .isDirectory =>
              some s!"error reading {quotedName source}: Is a directory"
          | _, .error error => some s!"{plainName source}: {error.message}"
        match fault? with
        | some fault => call.start.complain s!"{call.name}: {fault}"
        | none =>
            let (lines, effect) := readLines call [source]
            let wanted := (runsOfLines lines).filter fun (_, n) =>
              (!choices.has 'd' || 1 < n) && (!choices.has 'u' || n = 1)
            let out := wanted.flatMap fun (line, n) =>
              Text.encodeText (if choices.has 'c' then padded 7 n ++ " " else "") ++ line
            match target? with
            | none => effect.write out
            | some target =>
                match effect.workspace.write target (Text.decodeBytes out) with
                | .ok workspace => { effect with workspace }
                | .error error =>
                    effect.complain s!"{call.name}: {plainName target}: {error.message}"

example : runsOfLines [[97], [97], [98], [97]] = [([97], 2), ([98], 1), ([97], 1)] := by decide

example : bytesBefore [97] [97, 98] = true := by decide

end TaskScript.Shell.Program
