/-
Numbers written with a given number of digits.  The value is taken exactly and rounded
once, a tie going to the even digit.
-/
import TaskScript.Number.Binary64

namespace TaskScript

/-- The natural number nearest to a quotient, the even one of two that are as near. -/
def nearestQuotient (num den : Nat) : Nat :=
  let floor := num / den
  let rest := 2 * (num % den)
  if rest < den then floor
  else if rest = den then floor + floor % 2
  else floor + 1

/-- At least `width` digits. -/
def paddedDigits (width n : Nat) : List Char :=
  let digits := (toString n).toList
  List.replicate (width - digits.length) '0' ++ digits

namespace Binary64

/-- The value times ten to `exponent`, rounded. -/
def timesTenTo (x : Binary64) (exponent : Int) : Nat :=
  nearestQuotient (x.scaled * tenTo exponent.toNat) (twoTo 1074 * tenTo (-exponent).toNat)

/-- The digits of a number on the scale of `places` places, with a point before the last
ones if there are any. -/
def withPoint (places n : Nat) : List Char :=
  let digits := paddedDigits (places + 1) n
  let whole := digits.length - places
  if places = 0 then digits else digits.take whole ++ '.' :: digits.drop whole

/-- With so many places after the point, without a sign. -/
def fixed (x : Binary64) (places : Nat) : List Char := withPoint places (x.timesTenTo places)

/-- The power of ten of the first digit, when `places` more are kept. -/
def decimalExponent (x : Binary64) (places : Nat) : Int :=
  if x.isZero then 0
  else
    let exact := x.scaled
    let floor : Int :=
      if twoTo 1074 ≤ exact then ((toString (exact / twoTo 1074)).length : Int) - 1
      else -((toString ((twoTo 1074 - 1) / exact)).length : Int)
    let rounded := x.timesTenTo (places - floor)
    if rounded < tenTo places then floor - 1
    else if rounded < tenTo (places + 1) then floor
    else floor + 1

/-- With one digit before the point, `places` after it and the power of ten, without a
sign. -/
def scientific (x : Binary64) (places : Nat) : List Char :=
  let exponent := x.decimalExponent places
  withPoint places (x.timesTenTo (places - exponent))
    ++ ['e', if exponent < 0 then '-' else '+'] ++ paddedDigits 2 exponent.natAbs

/-- Without zeros at the end, nor a point. -/
def stripZeros (chars : List Char) : List Char :=
  if chars.contains '.' then
    ((chars.reverse.dropWhile (· = '0')).dropWhile (· = '.')).reverse
  else chars

/-- With so many digits in all, in whichever of the two ways is shorter. -/
def general (x : Binary64) (digits : Nat) : List Char :=
  let digits := max digits 1
  let exponent := x.decimalExponent (digits - 1)
  if -4 ≤ exponent ∧ exponent < digits then
    stripZeros (x.fixed (digits - 1 - exponent).toNat)
  else
    let written := x.scientific (digits - 1)
    stripZeros (written.takeWhile (· ≠ 'e')) ++ written.dropWhile (· ≠ 'e')

example : (ofRatio 5 2).fixed 0 = ['2'] := by decide +kernel

example : (ofRatio 1 8).fixed 2 = "0.12".toList := by decide +kernel

example : (ofNat 1500).scientific 1 = "1.5e+03".toList := by decide +kernel

example : (ofRatio 1 10).general 6 = "0.1".toList := by decide +kernel

end Binary64

end TaskScript
