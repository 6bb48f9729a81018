/-
The program that writes parts of lines: bytes by their places, or fields between
delimiters.
-/
import TaskScript.Number.Reading
import TaskScript.Shell.Program.Lines

namespace TaskScript.Shell.Program

/-- Places from the first to the last, or on to the end; they are counted from one on. -/
structure PlaceRange where
  first : Nat
  last? : Option Nat
  deriving DecidableEq, Repr

namespace PlaceRange

def contains (range : PlaceRange) (place : Nat) : Bool :=
  match range.last? with
  | some last => range.first ≤ place && place ≤ last
  | none => range.first ≤ place

/-- A number, or two with a dash between, one of which can be left out. -/
def ofText? (text : String) : Option PlaceRange :=
  match text.splitOn "-" with
  | [place] => (decimal? place).map fun n => ⟨n, some n⟩
  | [first, last] =>
      match decimal? first, decimal? last with
      | some first, some last => some ⟨first, some last⟩
      | some first, none => if last.isEmpty then some ⟨first, none⟩ else none
      | none, some last => if first.isEmpty then some ⟨1, some last⟩ else none
      | none, none => none
  | _ => none

end PlaceRange

/-- Items at wanted places. -/
def atPlaces {α : Type} (ranges : List PlaceRange) (items : List α) : List α :=
  (items.zipIdx.filter fun (_, i) => ranges.any (·.contains (i + 1))).map (·.1)

/-- Bytes cut at each delimiter. -/
def splitAt (delimiter : UInt8) : List UInt8 → List (List UInt8)
  | [] => [[]]
  | byte :: rest =>
      if byte = delimiter then [] :: splitAt delimiter rest
      else
        match splitAt delimiter rest with
        | [] => [[byte]]
        | field :: fields => (byte :: field) :: fields

/-- Writes some bytes or fields of each line; a line without a delimiter is written as a
whole, unless that is not wanted. -/
def columns (call : Call) : Effect :=
  call.withOptions
    { flags := "ns", valued := "bcfd"
      names := [("bytes", 'b'), ("characters", 'c'), ("fields", 'f'), ("delimiter", 'd'),
        ("only-delimited", 's')] } fun choices =>
    let lists := choices.options.filter fun (letter, _) => ['b', 'c', 'f'].contains letter
    let delimiter := Text.encodeText ((choices.value? 'd').getD "\t")
    match lists, delimiter with
    | [], _ => call.misused ["you must specify a list of bytes, characters, or fields"]
    | _ :: _ :: _, _ => call.misused ["only one list may be specified"]
    | _, _ :: _ :: _ => call.misused ["the delimiter must be a single character"]
    | [(letter, list)], delimiter =>
        let byFields := letter = 'f'
        let parts := list.splitOn ","
        let ranges := parts.filterMap PlaceRange.ofText?
        let faulty? := parts.find? fun part => (PlaceRange.ofText? part).isNone
        match faulty? with
        | some part =>
            let kind := if byFields then "field value" else "byte/character position"
            call.misused [s!"invalid {kind} {quotedText part}"]
        | none =>
            if ranges.any (·.first = 0) then
              call.misused
                [if byFields then "fields are numbered from 1"
                  else "byte/character positions are numbered from 1"]
            else
              let (lines, effect) := readLines call choices.operands
              let separator := delimiter.headD 0
              let cut (line : List UInt8) : List UInt8 :=
                if !byFields then atPlaces ranges line ++ [10]
                else
                  let fields := splitAt separator line
                  if fields.length ≤ 1 then
                    if choices.has 's' then [] else line ++ [10]
                  else [separator].intercalate (atPlaces ranges fields) ++ [10]
              effect.write (lines.flatMap fun line => cut line.dropLast)

example : PlaceRange.ofText? "2-" = some ⟨2, none⟩ := by cbv

example : atPlaces [⟨1, some 1⟩, ⟨3, none⟩] ["a", "b", "c", "d"] = ["a", "c", "d"] := by
  decide

end TaskScript.Shell.Program
