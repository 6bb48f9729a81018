/-
The program that replaces, deletes and squeezes characters.  It works on bytes, and a
character of several bytes stands for all of them.
-/
import TaskScript.Shell.Program.Lines

namespace TaskScript.Shell.Program

/-- Classes of characters by their names. -/
def byteClass? (name : String) : Option (UInt8 → Bool) :=
  let ofChars (test : Char → Bool) : UInt8 → Bool := fun byte =>
    byte < 128 && test (Char.ofNat byte.toNat)
  match name with
  | "upper" => some (ofChars Char.isUpper)
  | "lower" => some (ofChars Char.isLower)
  | "alpha" => some (ofChars Char.isAlpha)
  | "digit" => some (ofChars Char.isDigit)
  | "alnum" => some (ofChars Char.isAlphanum)
  | "space" => some isSpaceByte
  | "blank" => some fun byte => byte == 32 || byte == 9
  | "print" => some isPrintable
  | "graph" => some fun byte => isPrintable byte && byte != 32
  | "punct" => some fun byte =>
      isPrintable byte && byte != 32 && !ofChars Char.isAlphanum byte
  | "cntrl" => some fun byte => byte < 32 || byte == 127
  | _ => none

def allBytes : List UInt8 := (List.range 256).map UInt8.ofNat

/-- The bytes of a set and whether each was escaped. -/
def setBytes : List Char → List (UInt8 × Bool)
  | '\\' :: 'n' :: rest => (10, true) :: setBytes rest
  | '\\' :: 't' :: rest => (9, true) :: setBytes rest
  | '\\' :: 'r' :: rest => (13, true) :: setBytes rest
  | '\\' :: '0' :: rest => (0, true) :: setBytes rest
  | '\\' :: c :: rest => (Text.encodeText (String.singleton c)).map (·, true) ++ setBytes rest
  | c :: rest => (Text.encodeText (String.singleton c)).map (·, false) ++ setBytes rest
  | [] => []

/-- The bytes that a set stands for: a dash between two stands for those in between, a
name in brackets and colons for a class.  `skip` bytes belong to what comes before. -/
def byteSet (skip : Nat) : List (UInt8 × Bool) → List UInt8
  | [] => []
  | (byte, escaped) :: rest =>
      if 0 < skip then byteSet (skip - 1) rest
      else
        match className? ((byte, escaped) :: rest), rangeEnd? rest with
        | some (name, member), _ => allBytes.filter member ++ byteSet (name.length + 3) rest
        | none, some last =>
            (allBytes.filter fun b => byte ≤ b && b ≤ last) ++ byteSet 2 rest
        | none, none => byte :: byteSet 0 rest
where
  className? : List (UInt8 × Bool) → Option (String × (UInt8 → Bool))
    | (91, false) :: (58, false) :: rest =>
        let name := (rest.map (·.1)).takeWhile (· ≠ 58)
        let text := Text.decodeBytes name
        if ((rest.map (·.1)).drop name.length).take 2 = [58, 93] then
          (byteClass? text).map (text, ·)
        else none
    | _ => none
  rangeEnd? : List (UInt8 × Bool) → Option UInt8
    | (45, false) :: (last, _) :: _ => some last
    | _ => none

/-- Replaces, deletes or squeezes bytes of the input. -/
def translate (call : Call) : Effect :=
  call.withOptions
    { flags := "AcCdst", leading := true
      names := [("delete", 'd'), ("squeeze-repeats", 's'), ("complement", 'c'),
        ("truncate-set1", 't')] } fun choices =>
    let deletes := choices.has 'd'
    let squeezes := choices.has 's'
    let sets := choices.operands.map fun operand => byteSet 0 (setBytes operand.toList)
    let fewest := if deletes = squeezes then 2 else 1
    let most := if deletes && !squeezes then 1 else 2
    match sets, choices.operands[most]? with
    | [], _ => call.missingOperand
    | _, some operand =>
        let refused := call.start.warn s!"{call.name}: extra operand {quotedText operand}"
        let refused :=
          if choices.operands.length = 2 then
            refused.warn "Only one string may be given when deleting without squeezing repeats."
          else refused
        refused.complain s!"Try '{call.name} --help' for more information."
    | first :: others, none =>
        if choices.operands.length < fewest then
          let last := quotedText (choices.operands.headD "")
          let purpose := if squeezes then "both deleting and squeezing repeats" else "translating"
          ((call.start.warn s!"{call.name}: missing operand after {last}").warn
            s!"Two strings must be given when {purpose}.").complain
            s!"Try '{call.name} --help' for more information."
        else
          let first :=
            if choices.has 'c' || choices.has 'C' then allBytes.filter (!first.contains ·)
            else first
          let translates := !deletes && !others.isEmpty
          let second := others.headD []
          if translates && second.isEmpty && !first.isEmpty && !choices.has 't' then
            call.start.complain
              s!"{call.name}: when not truncating set1, string2 must be non-empty"
          else
            let replace (byte : UInt8) : UInt8 :=
              match first.reverse.idxOf? byte with
              | none => byte
              | some back =>
                  let i := first.length - 1 - back
                  if choices.has 't' then second.getD i byte
                  else second.getD i (second.getLast?.getD byte)
            let kept := if deletes then call.input.filter (!first.contains ·) else call.input
            let replaced := if translates then kept.map replace else kept
            let squeezed := if others.isEmpty then first else second
            let result :=
              if squeezes then
                (replaced.foldl (fun done byte =>
                  if done.head? = some byte ∧ squeezed.contains byte then done else byte :: done)
                  []).reverse
              else replaced
            { call.start with input := [] }.write result

example : byteSet 0 (setBytes "a-c[:digit:]".toList) = Text.encodeText "abc0123456789" := by
  decide +kernel

end TaskScript.Shell.Program
