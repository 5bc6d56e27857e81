import RegisterMachine.Number.Binary64

/-!
# The shortest decimal of a binary number

A binary number is shown with the fewest digits that are rounded back to it; of several decimals
with that many digits the nearest is taken, and the even one of two that are equally near. For
every count of digits only the two neighbours of the number on the grid of that many digits have
to be tried: if any decimal on the grid is rounded back, one of these two is.

Numbers from `10 ^ -4` up to `10 ^ 16` are shown with all their places, others with an exponent.
-/

namespace RegisterMachine.Binary64

open Text

/-- The digits times ten to the exponent. -/
structure Decimal where
  digits : Nat
  exponent : Int
deriving DecidableEq, Repr

/-- Compares a decimal with `n` times two to the exponent `e`. -/
def Decimal.compareTo (d : Decimal) (n : Nat) (e : Int) : Ordering :=
  compare (d.digits * tenTo d.exponent.toNat * twoTo (-e).toNat)
    (n * twoTo e.toNat * tenTo (-d.exponent).toNat)

/-- Whether the next number below is half as far away as the next one above: it has one more
binary place. -/
def narrowBelow (mantissa : Nat) (exponent : Int) : Bool :=
  mantissa == twoTo (places - 1) && decide (minExponent < exponent)

/-- Whether a decimal is rounded to the number with this mantissa and exponent. It then lies
between the middles of the gaps on both sides, which belong to the number if its mantissa is
even. -/
def Decimal.roundsTo (d : Decimal) (mantissa : Nat) (exponent : Int) : Bool :=
  let below := 4 * mantissa - (if narrowBelow mantissa exponent then 1 else 2)
  let above := 4 * mantissa + 2
  let fromBelow := d.compareTo below (exponent - 2)
  let fromAbove := d.compareTo above (exponent - 2)
  if mantissa % 2 = 0 then fromBelow != .lt && fromAbove != .gt
  else fromBelow == .gt && fromAbove == .lt

/-- The least `e` such that the number is below `10 ^ e`. The number is at least `10 ^ -324`, so
times `10 ^ 330` it has a whole part, whose digits are counted. -/
def decimalScale (mantissa : Nat) (exponent : Int) : Int :=
  (digitCount (mantissa * tenTo 330 * twoTo exponent.toNat / twoTo (-exponent).toNat) : Int) - 330

/-- The greatest multiple of `10 ^ e` that is not above the number. -/
def gridBelow (mantissa : Nat) (exponent e : Int) : Decimal :=
  ⟨mantissa * twoTo exponent.toNat * tenTo (-e).toNat / (twoTo (-exponent).toNat * tenTo e.toNat),
    e⟩

/-- The neighbours of the number on the grid of the multiples of `10 ^ e`, the one to prefer
first. -/
def gridNeighbours (mantissa : Nat) (exponent e : Int) : List Decimal :=
  let low := gridBelow mantissa exponent e
  let high : Decimal := { low with digits := low.digits + 1 }
  let middle : Decimal := ⟨10 * low.digits + 5, e - 1⟩
  match middle.compareTo mantissa exponent with
  | .gt => [low, high]
  | .lt => [high, low]
  | .eq => if low.digits % 2 = 0 then [low, high] else [high, low]

/-- The preferred decimal with at most `count` digits that is rounded back, if there is one. -/
def decimalOfLength? (mantissa : Nat) (exponent : Int) (count : Nat) : Option Decimal :=
  (gridNeighbours mantissa exponent (decimalScale mantissa exponent - count)).find?
    (·.roundsTo mantissa exponent)

/-- The value itself as a decimal. -/
def exactDecimal (mantissa : Nat) (exponent : Int) : Decimal :=
  ⟨mantissa * twoTo exponent.toNat * Nat.pow 5 (-exponent).toNat, min exponent 0⟩

/-- The shortest decimal that is rounded to a positive number. Seventeen digits are enough. -/
def shortest (mantissa : Nat) (exponent : Int) : Decimal :=
  ((List.range' 1 17).findSome? (decimalOfLength? mantissa exponent)).getD
    (exactDecimal mantissa exponent)

/-! ### The text -/

/-- A run of zeros. -/
def zeros (count : Nat) : List Char := List.replicate count '0'

/-- The exponent of a decimal, with its sign and at least two digits. -/
def exponentText (e : Int) : List Char :=
  let digits := Nat.toDigits 10 e.natAbs
  (if e < 0 then '-' else '+') :: zeros (2 - digits.length) ++ digits

/-- Digits without zeros at the end, the first of which has the place value `10 ^ e`. -/
def layout (digits : List Char) (e : Int) : List Char :=
  if e < -4 ∨ 16 ≤ e then
    match digits with
    | [] => []
    | [d] => d :: 'e' :: exponentText e
    | d :: rest => d :: '.' :: rest ++ 'e' :: exponentText e
  else if e < 0 then '0' :: '.' :: zeros (e.natAbs - 1) ++ digits
  else
    let whole := e.toNat + 1
    let fraction := digits.drop whole
    digits.take whole ++ zeros (whole - digits.length) ++
      '.' :: (if fraction.isEmpty then ['0'] else fraction)

/-- A decimal as it is shown. -/
def Decimal.write (d : Decimal) : List Char :=
  let digits := Nat.toDigits 10 d.digits
  layout (digits.reverse.dropWhile (· == '0')).reverse (d.exponent + digits.length - 1)

/-- The sign as it is shown. -/
def signText : Sign → String
  | .plus => ""
  | .minus => "-"

/-- A binary number as it is shown. -/
def write : Binary64 → String
  | undefined => "nan"
  | infinite sign => signText sign ++ "inf"
  | finite sign 0 _ => signText sign ++ "0.0"
  | finite sign mantissa exponent =>
    signText sign ++ String.ofList (shortest mantissa exponent).write

end RegisterMachine.Binary64
