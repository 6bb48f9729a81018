/-
The shortest decimal that reads back as a given number.  A number is the nearest one
to every decimal inside an interval around it.  For one, two, … seventeen digits
the search looks at the two neighbours of the number on the grid of decimals with
that many digits; the first grid with a neighbour in the interval wins.
-/
import TaskScript.Number.Binary64

namespace TaskScript

/-- `coefficient` times ten to `exponent`. -/
structure Decimal where
  coefficient : Nat
  exponent : Int
  deriving DecidableEq, Repr

namespace Decimal

/-- How `d` compares with `num / den`. -/
def compareRatio (d : Decimal) (num den : Nat) : Ordering :=
  compare (d.coefficient * tenTo d.exponent.toNat * den) (num * tenTo (-d.exponent).toNat)

/-- Moves the zeros at the end of the coefficient into the exponent; at most `steps`
of them. -/
def stripZeros (d : Decimal) : Nat → Decimal
  | 0 => d
  | steps + 1 =>
      if d.coefficient ≠ 0 ∧ d.coefficient % 10 = 0 then
        stripZeros ⟨d.coefficient / 10, d.exponent + 1⟩ steps
      else d

end Decimal

/-- The positive rationals that round to one number, over a common denominator. -/
structure RoundingInterval where
  low : Nat
  value : Nat
  high : Nat
  den : Nat
  /-- Whether the ends round to the number too. -/
  closed : Bool

namespace RoundingInterval

/-- A gap below a power of two is half as wide as the gap above it. -/
def ofNumber (x : Binary64) : RoundingInterval :=
  let unit := twoTo x.exponent
  let below := if x.significand = twoTo 52 ∧ x.exponent ≠ 0 then 1 else 2
  { low := (4 * x.significand - below) * unit
    value := 4 * x.significand * unit
    high := (4 * x.significand + 2) * unit
    den := 4 * twoTo 1074
    closed := x.significand % 2 = 0 }

def contains (interval : RoundingInterval) (d : Decimal) : Bool :=
  match d.compareRatio interval.low interval.den, d.compareRatio interval.high interval.den with
  | .gt, .lt => true
  | .eq, _ | _, .eq => interval.closed
  | _, _ => false

/-- The largest decimal on the grid of ten to `exponent` that is not above the value. -/
def floorOn (interval : RoundingInterval) (exponent : Int) : Decimal :=
  ⟨interval.value * tenTo (-exponent).toNat / (interval.den * tenTo exponent.toNat), exponent⟩

/-- Whether the value is at least as near to `d.coefficient + 1` as to `d.coefficient`. -/
def nearerAbove (interval : RoundingInterval) (d : Decimal) : Bool :=
  Decimal.compareRatio ⟨2 * d.coefficient + 1, d.exponent⟩ (2 * interval.value) interval.den != .gt

/-- The neighbour on the grid that lies in the interval; of two the nearer one, and the
upper one when both are equally near. -/
def onGrid? (interval : RoundingInterval) (exponent : Int) : Option Decimal :=
  let below := interval.floorOn exponent
  let above : Decimal := { below with coefficient := below.coefficient + 1 }
  match interval.contains below, interval.contains above with
  | true, true => some (if interval.nearerAbove below then above else below)
  | true, false => some below
  | false, true => some above
  | false, false => none

/-- The least power of ten above the value, from an estimate by binary digits. -/
def magnitude (interval : RoundingInterval) : Int :=
  let bits : Int := (interval.value.log2 : Int) - interval.den.log2
  let guess := bits * 30103 / 100000
  match ([guess - 1, guess, guess + 1] : List Int).find? fun power =>
      Decimal.compareRatio ⟨1, power⟩ interval.value interval.den == .gt with
  | some power => power
  | none => guess + 2

/-- The decimal with the fewest digits in the interval. -/
def shortest (interval : RoundingInterval) : Decimal :=
  let magnitude := interval.magnitude
  match (List.range 17).findSome? fun more => interval.onGrid? (magnitude - (more + 1 : Nat)) with
  | some d => d.stripZeros 17
  | none => interval.floorOn (magnitude - 17)

end RoundingInterval

namespace Binary64

/-- The shortest decimal that reads back as a positive finite number. -/
def shortest (x : Binary64) : Decimal := (RoundingInterval.ofNumber x).shortest

/-- Digits, a point and at least one digit after it between `10⁻⁴` and `10¹⁶`; else the
exponent of ten after an `e`. -/
def magnitudeText (x : Binary64) : String :=
  let d := x.shortest
  let digits := toString d.coefficient
  let point : Int := digits.length + d.exponent
  if point < -3 ∨ 16 < point then
    let mantissa :=
      match digits.toList with
      | first :: second :: rest => String.ofList (first :: '.' :: second :: rest)
      | _ => digits
    s!"{mantissa}e{point - 1}"
  else if point ≤ 0 then
    "0." ++ String.ofList (List.replicate (-point).toNat '0') ++ digits
  else if digits.length ≤ point.toNat then
    digits ++ String.ofList (List.replicate (point.toNat - digits.length) '0') ++ ".0"
  else
    String.ofList (digits.toList.take point.toNat ++ '.' :: digits.toList.drop point.toNat)

def text (x : Binary64) : String :=
  if x.isNaN then "NaN"
  else
    let sign := if x.isNegative then "-" else ""
    if x.isInfinite then sign ++ "inf"
    else if x.isZero then sign ++ "0.0"
    else sign ++ x.magnitudeText

example : (ofRatio 1 1000).shortest = ⟨1, -3⟩ := by decide +kernel

example : (Binary64.mk 1).shortest = ⟨5, -324⟩ := by decide +kernel

end Binary64

end TaskScript
