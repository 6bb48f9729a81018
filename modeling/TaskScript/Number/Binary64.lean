/-
Double-precision numbers by their bits.  Everything is exact arithmetic on natural
numbers: `ofRatio` rounds a quotient to the nearest number, ties to the even one,
and products and quotients of numbers go through it.
-/
import TaskScript.Number.Power

namespace TaskScript

/-- A binary64 number: a sign bit, eleven exponent bits, fifty-two fraction bits. -/
structure Binary64 where
  bits : Nat
  deriving DecidableEq, Repr

namespace Binary64

/-- The bits of positive infinity; numbers above it are no numbers. -/
def infinityBits : Nat := 0x7FF0000000000000

def signBit : Nat := 0x8000000000000000

def zero : Binary64 := ⟨0⟩

def infinity : Binary64 := ⟨infinityBits⟩

def nan : Binary64 := ⟨0x7FF8000000000000⟩

def isNegative (x : Binary64) : Bool := signBit ≤ x.bits

/-- The bits without the sign. -/
def magnitude (x : Binary64) : Nat := x.bits % signBit

def isNaN (x : Binary64) : Bool := infinityBits < x.magnitude

def isInfinite (x : Binary64) : Bool := x.magnitude = infinityBits

def isZero (x : Binary64) : Bool := x.magnitude = 0

def negate (x : Binary64) : Binary64 :=
  ⟨if x.isNegative then x.bits - signBit else x.bits + signBit⟩

/-- Zero or more and less than one; negative zero counts as zero. -/
def inUnitInterval (x : Binary64) : Bool :=
  x.isZero || (!x.isNegative && x.magnitude < 0x3FF0000000000000)

/-- The fraction with its hidden bit, to be scaled by two to `exponent` less 1074. -/
def significand (x : Binary64) : Nat :=
  let fraction := x.magnitude % twoTo 52
  if x.magnitude < twoTo 52 then fraction else fraction + twoTo 52

/-- How many times the smallest positive number is doubled to give the last place. -/
def exponent (x : Binary64) : Nat :=
  x.magnitude / twoTo 52 - 1

/-- The finite number nearest to `num / den` on the scale where the last place is two
to `exponent` less 1074, a tie going to the even neighbour. -/
def roundAt (num den exponent : Nat) : Nat :=
  let num := num * twoTo 1074
  let den := den * twoTo exponent
  let floor := num / den
  let rest := num % den
  if 2 * rest < den then floor
  else if 2 * rest = den then floor + floor % 2
  else floor + 1

/-- The exponent at which `num / den` has fifty-three significant bits, or zero if it
is too small for that. -/
def ratioExponent (num den : Nat) : Nat :=
  let guess := num.log2 + 1074 - den.log2 - 52
  if num * twoTo 1074 < den * twoTo guess * twoTo 52 then guess - 1 else guess

/-- The number nearest to `num / den`, infinity when it is beyond the largest. -/
def ofRatio (num den : Nat) : Binary64 :=
  if num = 0 then zero
  else
    let exponent := ratioExponent num den
    let bits := exponent * twoTo 52 + roundAt num den exponent
    if infinityBits ≤ bits then infinity else ⟨bits⟩

def ofNat (n : Nat) : Binary64 := ofRatio n 1

/-- The value times two to 1074, without its sign. -/
def scaled (x : Binary64) : Nat := x.significand * twoTo x.exponent

/-- The product of two finite numbers that are not negative. -/
def mul (x y : Binary64) : Binary64 :=
  ofRatio (x.scaled * y.scaled) (twoTo 2148)

/-- The quotient of two finite numbers that are not negative. -/
def div (x y : Binary64) : Binary64 :=
  ofRatio x.scaled y.scaled

example : ofRatio 1 2 = ⟨0x3FE0000000000000⟩ := by decide +kernel

example : ofRatio 1 10 = ⟨0x3FB999999999999A⟩ := by decide +kernel

end Binary64

end TaskScript
