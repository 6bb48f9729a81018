/-
Names as the programs write them in complaints.  A name is quoted so that a script could
hold it; in a message that is only read, it is quoted like a text of the program itself.
What cannot be printed is written by its bytes.
-/
import TaskScript.Text.Utf8

namespace TaskScript.Shell.Program

def isPrintable (byte : UInt8) : Bool := 32 ≤ byte && byte < 127

/-- The letters that stand for bytes after a backslash. -/
def byteLetters : List (UInt8 × Char) :=
  [(7, 'a'), (8, 'b'), (9, 't'), (10, 'n'), (11, 'v'), (12, 'f'), (13, 'r')]

/-- A byte that cannot be printed, by its letter or in octal. -/
def escapedByte (byte : UInt8) : List Char :=
  match byteLetters.lookup byte with
  | some letter => ['\\', letter]
  | none =>
      let digit (n : Nat) : Char := Char.ofNat ('0'.toNat + n % 8)
      ['\\', digit (byte.toNat / 64), digit (byte.toNat / 8), digit byte.toNat]

/-- Quoted with backslashes before quotes and before themselves. -/
def quotedText (name : String) : String :=
  let inner := (Text.encodeText name).flatMap fun byte =>
    let c := Char.ofNat byte.toNat
    if !isPrintable byte then escapedByte byte
    else if c = '\x27' ∨ c = '\\' then ['\\', c]
    else [c]
  String.ofList ('\x27' :: inner ++ ['\x27'])

/-- Whether a character means the same with and without quotes of any kind around it;
some do unless they stand at the front or alone. -/
def isHarmless (isFirst isAlone : Bool) (c : Char) : Bool :=
  if c = '#' ∨ c = '~' then !isFirst
  else if c = '\x7b' ∨ c = '\x7d' then !isAlone
  else c.isAlphanum || "%+,-./_]@".toList.contains c

/-- Whether a name can be written without quotes. -/
def needsNoQuotes (name : String) : Bool :=
  match name.toList with
  | [] => false
  | c :: rest =>
      isHarmless true rest.isEmpty c && rest.all (isHarmless false false)

/-- Whether a name means the same between double quotes as between single ones. -/
def fitsDoubleQuotes (name : String) : Bool :=
  match name.toList with
  | [] => true
  | c :: rest => (c = '#' || c = '~' || fits c) && rest.all fits
where
  fits (c : Char) : Bool := c.isAlphanum || "%+,-./_]@: \x27".toList.contains c

/-- Between single quotes, outside of which bytes that cannot be printed are written;
`outside` tells whether some come right before. -/
def quotedBytes (outside : Bool) : List UInt8 → List Char
  | [] => []
  | byte :: rest =>
      let c := Char.ofNat byte.toNat
      if !isPrintable byte then
        (if outside then [] else ['\x27', '$', '\x27']) ++ escapedByte byte ++ quotedBytes true rest
      else if c = '\x27' then ['\x27', '\\', '\x27', '\x27'] ++ quotedBytes false rest
      else (if outside then ['\x27', '\x27'] else []) ++ c :: quotedBytes false rest

def quotedName (name : String) : String :=
  if name.toList.contains '\x27' && fitsDoubleQuotes name then "\"" ++ name ++ "\""
  else String.ofList ('\x27' :: quotedBytes false (Text.encodeText name) ++ ['\x27'])

/-- Quoted only if it has to be. -/
def plainName (name : String) : String :=
  if needsNoQuotes name then name else quotedName name

example : plainName "a/b-1.h5" = "a/b-1.h5" := by decide +kernel

example : plainName "" = "''" := by decide +kernel

example : plainName "it's" = "\"it's\"" := by decide +kernel

example : quotedName "a\nb" = "'a'$'\\n''b'" := by decide +kernel

end TaskScript.Shell.Program
