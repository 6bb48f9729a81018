/-
Number literals.  An integer that fits sixty-four bits keeps its value.  Any other
literal becomes a double in two roundings: its leading digits, as many as fit
sixty-four bits, are rounded, and then multiplied or divided by a rounded power of
ten.
-/
import TaskScript.Number.Reading

namespace TaskScript.Json

/-- A literal by its parts; digits come the most significant first. -/
structure Number where
  negative : Bool := false
  whole : List Char
  /-- The digits after the point; empty when there is none. -/
  fraction : List Char := []
  /-- Whether the exponent is negative, and its digits. -/
  exponent? : Option (Bool × List Char) := none
  deriving DecidableEq, Repr

namespace Number

def isInteger (n : Number) : Bool := n.fraction.isEmpty && n.exponent?.isNone

/-- The value of an integer without a sign that fits sixty-four bits. -/
def natural? (n : Number) : Option Nat :=
  let value := digitsValue n.whole
  if n.isInteger && !n.negative && value < twoTo 64 then some value else none

/-- Takes digits into the significand while it fits sixty-four bits; the answer has the
digits that did not. -/
def takeFitting (significand : Nat) : List Char → Nat × List Char
  | [] => (significand, [])
  | c :: rest =>
      let next := significand * 10 + (c.toNat - 0x30)
      if next < twoTo 64 then takeFitting next rest else (significand, c :: rest)

/-- The significand and the power of ten it is to be multiplied by, without the
exponent of the literal. -/
def leadingDigits (n : Number) : Nat × Int :=
  let (significand, dropped) := takeFitting 0 n.whole
  let (significand, rest) := takeFitting significand n.fraction
  (significand, dropped.length - (n.fraction.length - rest.length : Nat))

/-- Divides by a power of ten, by the largest one that is a double as often as needed. -/
def scaleDown (x : Binary64) (places : Nat) : Binary64 :=
  if places ≤ 308 then x.div (.ofNat (tenTo places))
  else if x.isZero then x
  else scaleDown (x.div (.ofNat (tenTo 308))) (places - 308)
termination_by places

/-- Multiplies by a power of ten; none when the product is beyond the largest double. -/
def scaleUp? (x : Binary64) (places : Nat) : Option Binary64 :=
  if places ≤ 308 then
    let product := x.mul (.ofNat (tenTo places))
    if product.isInfinite then none else some product
  else if x.isZero then some x
  else none

def scale? (significand : Nat) (places : Int) : Option Binary64 :=
  if 0 ≤ places then scaleUp? (.ofNat significand) places.toNat
  else some (scaleDown (.ofNat significand) (-places).toNat)

/-- The double without the sign; none when it is beyond the largest one.  An exponent
that does not fit thirty-two bits leaves only zero in range, or zero itself. -/
def magnitude? (n : Number) : Option Binary64 :=
  if n.isInteger && digitsValue n.whole < twoTo 64 then some (.ofNat (digitsValue n.whole))
  else
    let (significand, places) := n.leadingDigits
    match n.exponent? with
    | none => scale? significand places
    | some (isDown, digits) =>
        let power := digitsValue digits
        if twoTo 31 ≤ power then
          if significand ≠ 0 && !isDown then none else some .zero
        else if isDown then scale? significand (places - power)
        else scale? significand (places + power)

def toBinary64? (n : Number) : Option Binary64 :=
  n.magnitude?.map fun x => if n.negative then x.negate else x

/-- Digits that start with a zero only if there is no other. -/
def isWhole (digits : List Char) : Bool :=
  !digits.isEmpty && (digits.head? != some '0' || digits.length == 1)

def readExponent? : List Char → Option (Option (Bool × List Char))
  | [] => some none
  | c :: rest =>
      if c = 'e' ∨ c = 'E' then
        let (isDown, digits) :=
          match rest with
          | '-' :: digits => (true, digits)
          | '+' :: digits => (false, digits)
          | digits => (false, digits)
        if digits.isEmpty || !digits.all Char.isDigit then none else some (some (isDown, digits))
      else none

/-- Reads a literal: digits, then a point with digits and an exponent if they are there. -/
def read? (chars : List Char) : Option Number := do
  let (negative, chars) :=
    match chars with
    | '-' :: rest => (true, rest)
    | chars => (false, chars)
  let (whole, rest) := takeDigits chars
  if !isWhole whole then none
  match rest with
  | '.' :: rest =>
      let (fraction, rest) := takeDigits rest
      if fraction.isEmpty then none
      return { negative, whole, fraction, exponent? := ← readExponent? rest }
  | rest => return { negative, whole, exponent? := ← readExponent? rest }

example : (read? ['1', '2']).bind natural? = some 12 := by decide

example : read? ['0', '1'] = none := by decide

end Number

end TaskScript.Json
