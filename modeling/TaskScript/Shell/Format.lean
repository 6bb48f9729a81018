/-
What the printing commands of the shell write.  Escapes give bytes, so the output need
not be text; a format is filled in again until its arguments are used up.
-/
import TaskScript.Number.Reading
import TaskScript.Number.Rounded
import TaskScript.Text.Escape
import TaskScript.Text.Utf8

namespace TaskScript.Shell

def charBytes (c : Char) : List UInt8 := String.utf8EncodeChar c

def isOctal (c : Char) : Bool := '0' ≤ c && c ≤ '7'

def octalByte (digits : List Char) : UInt8 :=
  UInt8.ofNat (digits.foldl (fun n c => n * 8 + (c.toNat - '0'.toNat)) 0)

/-- The byte of the escape that begins after a backslash, and how many characters it
takes. -/
def escapeAt? : List Char → Option (UInt8 × Nat)
  | [] => none
  | c :: rest =>
      match c with
      | 'a' => some (7, 1)
      | 'b' => some (8, 1)
      | 't' => some (9, 1)
      | 'n' => some (10, 1)
      | 'v' => some (11, 1)
      | 'f' => some (12, 1)
      | 'r' => some (13, 1)
      | '\\' => some (92, 1)
      | c =>
          let digits := ((c :: rest).takeWhile isOctal).take 3
          if digits.isEmpty then none else some (octalByte digits, digits.length)

/-- In an argument, a zero before the digits of an escape does not count as one. -/
def argumentEscapeAt? : List Char → Option (UInt8 × Nat)
  | '0' :: rest =>
      let digits := (rest.takeWhile isOctal).take 3
      some (octalByte digits, digits.length + 1)
  | chars => escapeAt? chars

/-- The bytes of an argument with escapes, and whether one of them stops the output.
`skip` characters belong to an escape before. -/
def unescapeFrom (skip : Nat) : List Char → List UInt8 × Bool
  | [] => ([], false)
  | c :: rest =>
      if 0 < skip then unescapeFrom (skip - 1) rest
      else if c ≠ '\\' then add (charBytes c) (unescapeFrom 0 rest)
      else if rest.head? = some 'c' then ([], true)
      else
        match argumentEscapeAt? rest with
        | some (byte, length) => add [byte] (unescapeFrom length rest)
        | none => add (charBytes c) (unescapeFrom 0 rest)
where
  add (bytes : List UInt8) (after : List UInt8 × Bool) : List UInt8 × Bool :=
    (bytes ++ after.1, after.2)

def unescape (text : String) : List UInt8 × Bool := unescapeFrom 0 text.toList

/-- The line that an echo of the words gives. -/
def echoBytes : List String → List UInt8
  | "-n" :: words => line [] words
  | words => line [10] words
where
  line (ending : List UInt8) : List String → List UInt8
    | [] => ending
    | [word] => closed ending (unescape word)
    | word :: words =>
        match unescape word with
        | (bytes, true) => bytes
        | (bytes, false) => bytes ++ 32 :: line ending words
  closed (ending : List UInt8) : List UInt8 × Bool → List UInt8
    | (bytes, true) => bytes
    | (bytes, false) => bytes ++ ending

/-- An integer at the front, in decimal or after `0x` or `0` on another base, and the
rest; none if there are no digits. -/
def splitInteger? (chars : List Char) : Option (Int × List Char) :=
  let chars := chars.dropWhile fun c => c.isWhitespace
  let (sign, chars) : Int × List Char :=
    match chars with
    | '-' :: rest => (-1, rest)
    | '+' :: rest => (1, rest)
    | chars => (1, chars)
  let (base, chars) : Nat × List Char :=
    match chars with
    | '0' :: x :: digit :: rest =>
        if (x = 'x' ∨ x = 'X') ∧ (digitValue? 16 digit).isSome then (16, digit :: rest)
        else (8, '0' :: x :: digit :: rest)
    | '0' :: rest => (8, '0' :: rest)
    | chars => (10, chars)
  let digits := chars.takeWhile fun c => (digitValue? base c).isSome
  if digits.isEmpty then none
  else
    let value := digits.foldl (fun n c => n * base + ((digitValue? base c).getD 0)) 0
    some (sign * value, chars.drop digits.length)
where
  digitValue? (base : Nat) (c : Char) : Option Nat :=
    let value :=
      if c.isDigit then c.toNat - '0'.toNat
      else if 'a' ≤ c ∧ c ≤ 'f' then c.toNat - 'a'.toNat + 10
      else if 'A' ≤ c ∧ c ≤ 'F' then c.toNat - 'A'.toNat + 10
      else base
    if value < base then some value else none

/-- Signed integers of sixty-four bits. -/
def maxInteger : Int := 9223372036854775807

def minInteger : Int := -9223372036854775808

/-- Unsigned integers of sixty-four bits are below this. -/
def unsignedLimit : Int := 18446744073709551616

/-- How a value is laid out. -/
structure Layout where
  flags : List Char := []
  width : Nat := 0
  precision? : Option Nat := none
  deriving DecidableEq, Repr

namespace Layout

def has (layout : Layout) (flag : Char) : Bool := layout.flags.contains flag

/-- Fills up with blanks. -/
def pad (layout : Layout) (bytes : List UInt8) : List UInt8 :=
  let blanks := List.replicate (layout.width - bytes.length) (32 : UInt8)
  if layout.has '-' then bytes ++ blanks else blanks ++ bytes

/-- Fills up with zeros between the sign and the digits if that is asked for. -/
def padNumber (layout : Layout) (zeros : Bool) (sign digits : List Char) : List UInt8 :=
  let missing := layout.width - (sign.length + digits.length)
  let filling := if zeros && layout.has '0' && !layout.has '-' then missing else 0
  layout.pad ((sign ++ List.replicate filling '0' ++ digits).flatMap charBytes)

/-- The sign before a number. -/
def sign (layout : Layout) (negative : Bool) : List Char :=
  if negative then ['-']
  else if layout.has '+' then ['+']
  else if layout.has ' ' then [' ']
  else []

/-- Digits with leading zeros up to the precision; none for a zero that needs none. -/
def digits (layout : Layout) (isZero : Bool) (written : List Char) : List Char :=
  if isZero ∧ layout.precision? = some 0 then []
  else List.replicate (layout.precision?.getD 1 - written.length) '0' ++ written

def signed (layout : Layout) (value : Int) : List UInt8 :=
  let digits := layout.digits (value = 0) (toString value.natAbs).toList
  layout.padNumber layout.precision?.isNone (layout.sign (value < 0)) digits

/-- Without a sign, on the base that the letter stands for. -/
def unsigned (layout : Layout) (letter : Char) (value : Nat) : List UInt8 :=
  let written : List Char :=
    match letter with
    | 'o' => Nat.toDigits 8 value
    | 'x' => Text.hexDigits value
    | 'X' => (Text.hexDigits value).map Char.toUpper
    | _ => (toString value).toList
  let digits := layout.digits (value = 0) written
  let digits :=
    if letter = 'o' ∧ layout.has '#' ∧ digits.head? ≠ some '0' then '0' :: digits else digits
  let lead : List Char :=
    if layout.has '#' ∧ value ≠ 0 ∧ (letter = 'x' ∨ letter = 'X') then ['0', letter] else []
  layout.padNumber layout.precision?.isNone lead digits

def float (layout : Layout) (letter : Char) (x : Binary64) : List UInt8 :=
  let precision := layout.precision?.getD 6
  let magnitude : List Char :=
    if x.isNaN then "nan".toList
    else if x.isInfinite then "inf".toList
    else if letter.toLower = 'f' then x.fixed precision
    else if letter.toLower = 'e' then x.scientific precision
    else x.general precision
  let magnitude := if letter.isUpper then magnitude.map Char.toUpper else magnitude
  layout.padNumber (!x.isNaN && !x.isInfinite) (layout.sign x.isNegative) magnitude

end Layout

/-- What is wrong with a format or with an argument. -/
inductive PrintFault where
  | missingLetter
  | unknownDirective (directive : String)
  | notNumber (text : String)
  | partlyNumber (text : String)
  | outOfRange (text : String)
  deriving DecidableEq, Repr

def PrintFault.message : PrintFault → String
  | .missingLetter => "missing format character"
  | .unknownDirective directive => s!"%{directive}: invalid directive"
  | .notNumber text => s!"{text}: expected numeric value"
  | .partlyNumber text => s!"{text}: not completely converted"
  | .outOfRange text => s!"{text}: Numerical result out of range"

/-- What a printing command has come to. -/
structure Printing where
  arguments : List String
  bytes : List UInt8 := []
  faults : List PrintFault := []
  status : Nat := 0
  /-- Nothing more is to be written. -/
  stopped : Bool := false
  deriving Repr

namespace Printing

def write (printing : Printing) (bytes : List UInt8) : Printing :=
  { printing with bytes := printing.bytes ++ bytes }

def complain (printing : Printing) (fault : PrintFault) : Printing :=
  { printing with faults := printing.faults ++ [fault], status := max printing.status 1 }

/-- Gives up. -/
def fail (printing : Printing) (fault : PrintFault) : Printing :=
  { printing.complain fault with status := 2, stopped := true }

def takeText (printing : Printing) : String × Printing :=
  (printing.arguments.headD "", { printing with arguments := printing.arguments.drop 1 })

/-- What is wrong with an argument that should be a number, when `rest` of it is left. -/
def checkRest (printing : Printing) (text : String) (rest? : Option (List Char)) : Printing :=
  match rest? with
  | some [] => printing
  | some _ => printing.complain (.partlyNumber text)
  | none => if text.isEmpty then printing else printing.complain (.notNumber text)

/-- The next argument as an integer between two bounds; after a quote, the code of the
first byte. -/
def takeInteger (printing : Printing) (low high : Int) : Int × Printing :=
  let (text, printing) := printing.takeText
  match text.toList with
  | '\x27' :: rest | '"' :: rest =>
      ((((rest.flatMap charBytes).head?.map UInt8.toNat).getD 0 : Nat), printing)
  | chars =>
      match splitInteger? chars with
      | none => (0, printing.checkRest text none)
      | some (value, rest) =>
          if value < low ∨ high < value then
            (max low (min high value),
              if rest.isEmpty then printing.complain (.outOfRange text)
              else printing.checkRest text (some rest))
          else (value, printing.checkRest text (some rest))

/-- The next argument as a number, read from as much of its front as can be. -/
def takeFloat (printing : Printing) : Binary64 × Printing :=
  let (text, printing) := printing.takeText
  match text.toList with
  | '\x27' :: rest | '"' :: rest =>
      (.ofNat (((rest.flatMap charBytes).head?.map UInt8.toNat).getD 0), printing)
  | chars =>
      let chars := chars.dropWhile fun c => c.isWhitespace
      let lengths := (List.range (chars.length + 1)).reverse
      match lengths.find? fun length =>
          (Binary64.ofText? (String.ofList (chars.take length))).isSome with
      | none => (.zero, printing.checkRest text none)
      | some length =>
          ((Binary64.ofText? (String.ofList (chars.take length))).getD .zero,
            printing.checkRest text (some (chars.drop length)))

/-- A number in a format: a star stands for the next argument. -/
def takeCount (printing : Printing) (chars : List Char) : Option Int × List Char × Printing :=
  match chars with
  | '*' :: rest =>
      let (value, printing) := printing.takeInteger minInteger maxInteger
      (some value, rest, printing)
  | chars =>
      let (digits, rest) := takeDigits chars
      (if digits.isEmpty then none else some (digitsValue digits), rest, printing)

/-- Writes the next argument as a conversion says. -/
def convert (printing : Printing) (layout : Layout) (letter : Char) : Printing :=
  match letter with
  | 's' =>
      let (text, printing) := printing.takeText
      let bytes := Text.encodeText text
      printing.write (layout.pad (bytes.take (layout.precision?.getD bytes.length)))
  | 'b' =>
      let (text, printing) := printing.takeText
      let (bytes, stops) := unescape text
      { printing.write (layout.pad (bytes.take (layout.precision?.getD bytes.length))) with
        stopped := stops }
  | 'c' =>
      let (text, printing) := printing.takeText
      printing.write (layout.pad [(Text.encodeText text).headD 0])
  | 'd' | 'i' =>
      let (value, printing) := printing.takeInteger minInteger maxInteger
      printing.write (layout.signed value)
  | 'o' | 'u' | 'x' | 'X' =>
      let (value, printing) := printing.takeInteger (-maxInteger) (unsignedLimit - 1)
      printing.write (layout.unsigned letter (value % unsignedLimit).toNat)
  | 'e' | 'E' | 'f' | 'F' | 'g' | 'G' =>
      let (value, printing) := printing.takeFloat
      printing.write (layout.float letter value)
  | _ => printing

/-- Fills a format in once. -/
def fill : Nat → Printing → List Char → Printing
  | 0, printing, _ => printing
  | _ + 1, printing, [] => printing
  | fuel + 1, printing, c :: rest =>
      match c, rest with
      | '\\', rest =>
          match escapeAt? rest with
          | some (byte, length) => fill fuel (printing.write [byte]) (rest.drop length)
          | none => fill fuel (printing.write (charBytes c)) rest
      | '%', '%' :: rest => fill fuel (printing.write (charBytes c)) rest
      | '%', rest =>
          let isFlag (c : Char) : Bool := ['#', '-', '+', ' ', '0'].contains c
          let flags := rest.takeWhile isFlag
          let (width?, after, printing) := printing.takeCount (rest.drop flags.length)
          let (precision?, after, printing) : Option Nat × List Char × Printing :=
            match after with
            | '.' :: after =>
                let (count?, after, printing) := printing.takeCount after
                let count := count?.getD 0
                (if count < 0 then none else some count.toNat, after, printing)
            | after => (none, after, printing)
          let width := width?.getD 0
          let layout : Layout :=
            { flags := if width < 0 then '-' :: flags else flags
              width := width.natAbs, precision? }
          match after with
          | [] => printing.fail .missingLetter
          | letter :: after =>
              if "sbcdiouxXeEfFgG".toList.contains letter then
                let printing := printing.convert layout letter
                if printing.stopped then printing else fill fuel printing after
              else
                let directive := rest.take (rest.length - after.length)
                printing.fail (.unknownDirective (String.ofList directive))
      | c, rest => fill fuel (printing.write (charBytes c)) rest

/-- Fills a format in until the arguments are used up, `rounds` times at most. -/
def repeatFill (format : List Char) : Nat → Printing → Printing
  | 0, printing => printing
  | rounds + 1, printing =>
      let next := fill (format.length + 1) printing format
      if next.stopped ∨ next.arguments.isEmpty
          ∨ next.arguments.length = printing.arguments.length then next
      else repeatFill format rounds next

end Printing

def printFormat (format : String) (arguments : List String) : Printing :=
  Printing.repeatFill format.toList (arguments.length + 1) { arguments }

example : (printFormat "\\377a%s\\n" ["b", "c"]).bytes = [255, 97, 98, 10, 255, 97, 99, 10] := by
  decide +kernel

example : (printFormat "%5s|%-3d|%x" ["ab", "7", "255"]).bytes = Text.encodeText "   ab|7  |ff" := by
  decide +kernel

example : echoBytes ["a\\cb", "c"] = [97] := by decide +kernel

end TaskScript.Shell
