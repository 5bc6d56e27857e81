/-!
# Decimal numbers of bounded length

Numbers are read and written in decimal up to a length of 4300 digits. Beyond it both refuse. The
bound is on the text only: arithmetic has none.
-/

namespace RegisterMachine.Text

/-- The greatest number of digits that is read or written. -/
def digitLimit : Nat := 4300

/-- Why a number could not be read or written. -/
inductive DigitError where
  /-- The text to read has this many digits. -/
  | reading (digits : Nat)
  /-- The number to write has too many digits. -/
  | writing
deriving DecidableEq, Repr

/-- The wording of the refusal. -/
def DigitError.message : DigitError → String
  | .reading digits =>
    "Exceeds the limit (4300 digits) for integer string conversion: value has " ++ digits.repr ++
      " digits; use sys.set_int_max_str_digits() to increase the limit"
  | .writing =>
    "Exceeds the limit (4300 digits) for integer string conversion; " ++
      "use sys.set_int_max_str_digits() to increase the limit"

/-- The sign that may stand before the digits of a number. -/
inductive Sign where
  | plus
  | minus
deriving DecidableEq, Repr

/-- The number with a sign and a magnitude. -/
def Sign.apply : Sign → Nat → Int
  | .plus, n => n
  | .minus, n => -n

/-- The value of a run of decimal digits. -/
def digitsValue (digits : List Char) : Nat :=
  digits.foldl (fun n c ↦ 10 * n + (c.toNat - '0'.toNat)) 0

/-- Reads a run of decimal digits. Every digit counts, leading zeros too. -/
def readDecimal (sign : Sign) (digits : List Char) : Except DigitError Int :=
  if digits.length ≤ digitLimit then .ok (sign.apply (digitsValue digits))
  else .error (.reading digits.length)

/-- The decimal text of a number, of any length. -/
def decimal (n : Int) : String :=
  if n < 0 then "-" ++ n.natAbs.repr else n.natAbs.repr

/-- The least magnitude that is too long to be written. It is not to be computed in proofs. -/
@[irreducible] def digitBound : Nat := Nat.pow 10 digitLimit

/-- Writes a number in decimal. -/
def writeDecimal (n : Int) : Except DigitError String :=
  if n.natAbs < digitBound then .ok (decimal n) else .error .writing

/-! ### Small facts -/

theorem readDecimal_eq_ok_iff {sign : Sign} {digits : List Char} {value : Int} :
    readDecimal sign digits = .ok value ↔
      digits.length ≤ digitLimit ∧ sign.apply (digitsValue digits) = value := by
  by_cases h : digits.length ≤ digitLimit <;> simp [readDecimal, h]

theorem writeDecimal_eq_ok_iff {n : Int} {text : String} :
    writeDecimal n = .ok text ↔ n.natAbs < digitBound ∧ decimal n = text := by
  by_cases h : n.natAbs < digitBound <;> simp [writeDecimal, h]

theorem writeDecimal_eq_error_iff {n : Int} {e : DigitError} :
    writeDecimal n = .error e ↔ digitBound ≤ n.natAbs ∧ e = .writing := by
  by_cases h : n.natAbs < digitBound
  · simp [writeDecimal, h, Nat.not_le.2 h]
  · simp [writeDecimal, h, Nat.not_lt.1 h, eq_comm]

end RegisterMachine.Text
