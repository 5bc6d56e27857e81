import RegisterMachine.Text.Decimal

/-!
# Binary numbers of 64 bits

A number with a fraction is kept to 53 binary places: as a mantissa below `2 ^ 53` times a power
of two from `2 ^ -1074` to `2 ^ 971`. A decimal is rounded to the nearest such number, and to the
one with the even mantissa if two are equally near. What is too large for the format is infinite.

All arithmetic is exact, on fractions of natural numbers.
-/

namespace RegisterMachine

open Text

/-- A number of the format. -/
inductive Binary64 where
  /-- The mantissa times two to the exponent. Zero has a sign as well. -/
  | finite (sign : Sign) (mantissa : Nat) (exponent : Int)
  | infinite (sign : Sign)
  /-- What is no number at all. -/
  | undefined
deriving DecidableEq, Repr

namespace Binary64

/-- The number of binary places of a mantissa. -/
def places : Nat := 53

/-- The least exponent. -/
def minExponent : Int := -1074

/-- The greatest exponent. -/
def maxExponent : Int := 971

/-- A power of two. -/
def twoTo (n : Nat) : Nat := Nat.pow 2 n

/-- A power of ten. -/
def tenTo (n : Nat) : Nat := Nat.pow 10 n

/-- The zero with a sign. -/
def zero (sign : Sign) : Binary64 := .finite sign 0 minExponent

/-- The whole number nearest to `a / b`, and the even one of two that are equally near. -/
def nearest (a b : Nat) : Nat :=
  let quotient := a / b
  let rest := 2 * (a % b)
  if rest < b ∨ rest = b ∧ quotient % 2 = 0 then quotient else quotient + 1

/-- The greatest `e` with `2 ^ e ≤ a / b`, for positive `a` and `b`. -/
def log2Ratio (a b : Nat) : Int :=
  let e : Int := (a.log2 : Int) - (b.log2 : Int)
  if b * twoTo e.toNat ≤ a * twoTo (-e).toNat then e else e - 1

/-- The number of the format nearest to `a / b`, for positive `b`. -/
def ofRatio (sign : Sign) (a b : Nat) : Binary64 :=
  if a = 0 then zero sign
  else
    let exponent := max (log2Ratio a b + 1 - places) minExponent
    let mantissa := nearest (a * twoTo (-exponent).toNat) (b * twoTo exponent.toNat)
    -- A mantissa may be rounded up to one place more than there is.
    let (mantissa, exponent) :=
      if mantissa = twoTo places then (twoTo (places - 1), exponent + 1) else (mantissa, exponent)
    if maxExponent < exponent then .infinite sign else .finite sign mantissa exponent

/-- The number of decimal digits of a number. -/
def digitCount (n : Nat) : Nat := (Nat.toDigits 10 n).length

/-- The number of the format nearest to the digits times ten to the exponent. A decimal from
`10 ^ 309` on is infinite, and one below `10 ^ -330` is zero, so no great power is ever formed. -/
def ofDecimal (sign : Sign) (digits : Nat) (exponent : Int) : Binary64 :=
  let magnitude := exponent + digitCount digits
  if digits = 0 ∨ magnitude < -330 then zero sign
  else if 309 < magnitude then .infinite sign
  else ofRatio sign (digits * tenTo exponent.toNat) (tenTo (-exponent).toNat)

/-- Whether a number counts as set: everything but the two zeros. -/
def isSet : Binary64 → Bool
  | finite _ mantissa _ => mantissa != 0
  | infinite _ => true
  | undefined => true

end Binary64

end RegisterMachine
