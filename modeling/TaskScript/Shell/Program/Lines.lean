/-
Programs that write out lines: all of them or a part, numbered, the other way round, or
counted only.  Lines are bytes up to and with a line end, so what is no text comes out as
it came in.
-/
import TaskScript.Number.Reading
import TaskScript.Shell.Program.Basic

namespace TaskScript.Shell.Program

/-- Bytes cut after each line end. -/
def splitLines : List UInt8 → List (List UInt8)
  | [] => []
  | byte :: rest =>
      if byte = 10 then [byte] :: splitLines rest
      else
        match splitLines rest with
        | [] => [[byte]]
        | line :: lines => (byte :: line) :: lines

/-- Right-aligned digits. -/
def padded (width n : Nat) : String :=
  let digits := toString n
  "".pushn ' ' (width - digits.length) ++ digits

/-- Writes out files one after another, if asked for with numbers before the lines. -/
def concatenate (call : Call) : Effect :=
  call.withOptions
    { flags := "AbeEnstTuv"
      names := [("number", 'n'), ("number-nonblank", 'b'), ("show-ends", 'E')] } fun choices =>
    let effect := call.onOperands choices.operands fun effect operand =>
      match Call.readOperand effect operand with
      | (.ok bytes, effect) => effect.write bytes
      | (.error error, effect) =>
          effect.complain s!"{call.name}: {plainName operand}: {error.message}"
    let number (count : Nat) (line : List UInt8) : Nat × List UInt8 :=
      if choices.has 'b' && line = [10] then (count, line)
      else if choices.has 'b' || choices.has 'n' then
        (count + 1, Text.encodeText (padded 6 (count + 1) ++ "\t") ++ line)
      else (count, line)
    let marksEnds := ['E', 'e', 'A'].any choices.has
    let marked (line : List UInt8) : List UInt8 :=
      if marksEnds && line.getLast? = some 10 then line.dropLast ++ [36, 10] else line
    let numbered := (splitLines effect.out).foldl (fun (count, lines) line =>
      let (count, line) := number count line
      (count, marked line :: lines)) (0, ([] : List (List UInt8)))
    { effect with out := numbered.2.reverse.flatten }

/-- The lines of files one after another, each with its end; what cannot be read is
complained about. -/
def readLines (call : Call) (operands : List String) : List (List UInt8) × Effect :=
  let effect := call.onOperands operands fun effect operand =>
    match Call.readOperand effect operand with
    | (.ok bytes, effect) =>
        effect.write (if bytes.getLast?.getD 10 = 10 then bytes else bytes ++ [10])
    | (.error error, effect) =>
        effect.complain s!"{call.name}: {plainName operand}: {error.message}"
  (splitLines effect.out, { effect with out := [] })

/-- Numbers the lines that are not empty, or all of them. -/
def numberLines (call : Call) : Effect :=
  call.withOptions { valued := "b", names := [("body-numbering", 'b')] } fun choices =>
    let style := (choices.value? 'b').getD "t"
    let (lines, effect) := readLines call choices.operands
    let numbered := lines.foldl (fun (count, written) line =>
      if style = "a" ∨ (style = "t" ∧ line ≠ [10]) then
        (count + 1, (Text.encodeText (padded 6 (count + 1) ++ "\t") ++ line) :: written)
      else (count, (Text.encodeText ("".pushn ' ' 7) ++ line) :: written))
      (0, ([] : List (List UInt8)))
    effect.write numbered.2.reverse.flatten

/-- Writes the lines of each file, the last one first. -/
def reverseLines (call : Call) : Effect :=
  call.withOptions {} fun choices =>
    call.onOperands choices.operands fun effect operand =>
      match Call.readOperand effect operand with
      | (.ok bytes, effect) => effect.write (splitLines bytes).reverse.flatten
      | (.error .isDirectory, effect) =>
          effect.complain s!"{call.name}: {plainName operand}: read error: Invalid argument"
      | (.error error, effect) =>
          effect.complain
            s!"{call.name}: failed to open {quotedName operand} for reading: {error.message}"

/-- Writes the characters of each line, the last one first. -/
def reverseCharacters (call : Call) : Effect :=
  call.withOptions {} fun choices =>
    call.onOperands choices.operands fun effect operand =>
      match Call.readOperand effect operand with
      | (.ok bytes, effect) =>
          effect.write ((splitLines bytes).flatMap fun line =>
            let text := line.takeWhile (· ≠ 10)
            text.reverse ++ line.drop text.length)
      | (.error error, effect) =>
          effect.complain s!"{call.name}: cannot open {operand}: {error.message}"

/-- Writes a part of each file, with the name of each above it if there are several.
`-5` stands for `-n 5`. -/
def excerpt (call : Call)
    (byLines byBytes : String → List UInt8 → List UInt8) : Effect :=
  let arguments :=
    match call.arguments with
    | first :: rest =>
        match first.toList with
        | '-' :: c :: more =>
            if c.isDigit then "-n" :: String.ofList (c :: more) :: rest else first :: rest
        | _ => first :: rest
    | [] => []
  let call := { call with arguments }
  call.withOptions
    { flags := "qvz", valued := "nc"
      names := [("lines", 'n'), ("bytes", 'c'), ("quiet", 'q'), ("silent", 'q'), ("verbose", 'v')] }
    fun choices =>
      let size? := choices.options.reverse.find? fun (letter, _) => letter = 'n' ∨ letter = 'c'
      let faulty? := size?.filter fun (_, size) => !isSize size
      match faulty? with
      | some (letter, size) =>
          let unit := if letter = 'n' then "lines" else "bytes"
          call.start.complain s!"{call.name}: invalid number of {unit}: {quotedText size}"
      | none =>
          let part : List UInt8 → List UInt8 :=
            match size? with
            | some ('c', size) => byBytes size
            | some (_, size) => byLines size
            | none => byLines "10"
          let named := choices.has 'v' || (1 < choices.operands.length && !choices.has 'q')
          let entitle (effect : Effect) (operand : String) : Effect :=
            let gap := if effect.out.isEmpty then "" else "\n"
            let title := if operand = "-" then "standard input" else operand
            if named then effect.writeText s!"{gap}==> {title} <==\n" else effect
          call.onOperands choices.operands fun effect operand =>
            match Call.readOperand effect operand with
            | (.ok bytes, effect) => (entitle effect operand).write (part bytes)
            | (.error .isDirectory, effect) =>
                (entitle effect operand).complain
                  s!"{call.name}: error reading {quotedName operand}: Is a directory"
            | (.error error, effect) =>
                effect.complain
                  s!"{call.name}: cannot open {quotedName operand} for reading: {error.message}"
where
  /-- Digits, with or without a sign. -/
  isSize (size : String) : Bool :=
    match size.toList with
    | [] => false
    | c :: rest => ((c = '-' || c = '+') && isDigits rest) || isDigits (c :: rest)
  isDigits (chars : List Char) : Bool := !chars.isEmpty && chars.all Char.isDigit

/-- The front of a list; with a minus, all but so many at the end. -/
def frontOf {α : Type} (size : String) (items : List α) : List α :=
  match size.toList with
  | '-' :: digits => items.take (items.length - digitsValue digits)
  | '+' :: digits | digits => items.take (digitsValue digits)

/-- The end of a list; with a plus, all from that place on. -/
def endOf {α : Type} (size : String) (items : List α) : List α :=
  match size.toList with
  | '+' :: digits => items.drop (digitsValue digits - 1)
  | '-' :: digits => items.drop (items.length - digitsValue digits)
  | digits => items.drop (items.length - digitsValue digits)

def head (call : Call) : Effect :=
  excerpt call (fun size bytes => (frontOf size (splitLines bytes)).flatten) frontOf

def tail (call : Call) : Effect :=
  excerpt call (fun size bytes => (endOf size (splitLines bytes)).flatten) endOf

def isSpaceByte (byte : UInt8) : Bool := byte == 32 || (9 ≤ byte && byte ≤ 13)

/-- How many words bytes hold; `inside` tells whether one is open.  Only what can be
printed begins one. -/
def countWords (inside : Bool) : List UInt8 → Nat
  | [] => 0
  | byte :: rest =>
      if isSpaceByte byte then countWords false rest
      else if isPrintable byte then (if inside then 0 else 1) + countWords true rest
      else countWords inside rest

/-- Counts lines, words and bytes of each file, and of all if there are several. -/
def wordCount (call : Call) : Effect :=
  call.withOptions
    { flags := "lwcm"
      names := [("lines", 'l'), ("words", 'w'), ("bytes", 'c'), ("chars", 'm')] } fun choices =>
    let operands := choices.operands
    let shown : List Bool :=
      if choices.options.isEmpty then [true, true, false, true]
      else ['l', 'w', 'm', 'c'].map choices.has
    let sizes := operands.map fun operand =>
      ((call.workspace.read? operand).map String.utf8ByteSize).getD 0
    let isOpen (operand : String) : Bool := operand = "-" || call.workspace.isDirectory operand
    let width :=
      if operands.length ≤ 1 ∧ (shown.filter id).length = 1 then 1
      else
        max (toString (sizes.foldl (· + ·) 0)).length
          (if operands.isEmpty || operands.any isOpen then 7 else 1)
    let row (counts : List Nat) (name : String) : String :=
      let columns := (shown.zip counts).filterMap fun (isShown, n) =>
        if isShown then some (padded width n) else none
      " ".intercalate (columns ++ if name.isEmpty then [] else [name]) ++ "\n"
    let step (state : Effect × List Nat) (operand : String) : Effect × List Nat :=
      let (effect, total) := state
      let name := if operands.isEmpty then "" else operand
      match Call.readOperand effect operand with
      | (.ok bytes, effect) =>
          let counts := [bytes.count 10, countWords false bytes, bytes.length, bytes.length]
          (effect.writeText (row counts name), (total.zip counts).map fun (a, b) => a + b)
      | (.error .isDirectory, effect) =>
          ((effect.complain s!"{call.name}: {plainName operand}: Is a directory").writeText
            (row [0, 0, 0, 0] name), total)
      | (.error error, effect) =>
          let fault :=
            if operand.isEmpty then "invalid zero-length file name"
            else s!"{plainName operand}: {error.message}"
          (effect.complain s!"{call.name}: {fault}", total)
    let (effect, total) :=
      (if operands.isEmpty then ["-"] else operands).foldl step (call.start, [0, 0, 0, 0])
    if 1 < operands.length then effect.writeText (row total "total") else effect

example : splitLines [97, 10, 98] = [[97, 10], [98]] := by decide

example : countWords false (Text.encodeText "a b\n cé é") = 3 := by decide +kernel

end TaskScript.Shell.Program
