/-
Numbers from decimal text: an optional sign, digits with an optional point, an
optional exponent; or the names of infinity and of the value that is no number.  The
answer is the nearest number, infinity beyond the largest.
-/
import TaskScript.Number.Binary64

namespace TaskScript

/-- The value of the digits, the most significant first. -/
def digitsValue (digits : List Char) : Nat :=
  digits.foldl (fun value c => value * 10 + (c.toNat - 0x30)) 0

/-- The digits at the start and the rest. -/
def takeDigits (chars : List Char) : List Char × List Char :=
  (chars.takeWhile Char.isDigit, chars.dropWhile Char.isDigit)

/-- The number that digits alone give. -/
def decimal? (text : String) : Option Nat :=
  if text.isEmpty || !text.toList.all Char.isDigit then none else some (digitsValue text.toList)

namespace Binary64

/-- The number nearest to `coefficient` times ten to `exponent`.  Beyond four hundred
places on either side the answer is known without the power. -/
def ofDecimal (coefficient : Nat) (exponent : Int) : Binary64 :=
  let places := (toString coefficient).length
  if coefficient = 0 then zero
  else if 400 < places + exponent then infinity
  else if places + exponent < -400 then zero
  else ofRatio (coefficient * tenTo exponent.toNat) (tenTo (-exponent).toNat)

/-- The exponent after the mantissa: nothing, or `e` with an optional sign and digits. -/
def readExponent? : List Char → Option Int
  | [] => some 0
  | c :: rest =>
      if c = 'e' ∨ c = 'E' then
        let (sign, digits) : Int × List Char :=
          match rest with
          | '-' :: digits => (-1, digits)
          | '+' :: digits => (1, digits)
          | digits => (1, digits)
        if digits.isEmpty || !digits.all Char.isDigit then none
        else some (sign * digitsValue digits)
      else none

def readMagnitude? (chars : List Char) : Option Binary64 :=
  let (whole, rest) := takeDigits chars
  let (fraction, rest) :=
    match rest with
    | '.' :: rest => takeDigits rest
    | rest => ([], rest)
  if whole.isEmpty && fraction.isEmpty then none
  else
    (readExponent? rest).map fun exponent =>
      ofDecimal (digitsValue (whole ++ fraction)) (exponent - fraction.length)

def readUnsigned? (chars : List Char) : Option Binary64 :=
  let lower := chars.map Char.toLower
  if lower = "inf".toList ∨ lower = "infinity".toList then some infinity
  else if lower = "nan".toList then some nan
  else readMagnitude? chars

def ofText? (text : String) : Option Binary64 :=
  match text.toList with
  | '-' :: rest => (readUnsigned? rest).map negate
  | '+' :: rest => readUnsigned? rest
  | chars => readUnsigned? chars

end Binary64

end TaskScript
