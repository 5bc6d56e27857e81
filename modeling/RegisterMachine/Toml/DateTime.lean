import RegisterMachine.Toml.Problem
import RegisterMachine.Toml.Value

/-!
# Dates and times of a document

A date, a time of day, or a date with a time behind it, which may be followed by its offset from
universal time. All parts but the fraction of a second have a fixed width. A date whose time
cannot be read is a date alone.
-/

namespace RegisterMachine.Toml

open Text Calendar

/-- A number of exactly `width` digits between two bounds. -/
def readField? (width low high : Nat) (text : List Char) : Option (Nat × List Char) :=
  let digits := text.take width
  let n := digitsValue digits
  if digits.length = width ∧ digits.all Char.isDigit ∧ low ≤ n ∧ n ≤ high then
    some (n, text.drop width)
  else none

/-- Skips a character that has to be there. -/
def skipChar? (c : Char) : List Char → Option (List Char)
  | d :: rest => if c = d then some rest else none
  | [] => none

/-- A date, whether the calendar has it or not. -/
def readDate? (text : List Char) : Option (Date × List Char) := do
  let (year, text) ← readField? 4 0 9999 text
  let (month, text) ← readField? 2 1 12 (← skipChar? '-' text)
  let (day, text) ← readField? 2 1 31 (← skipChar? '-' text)
  return (⟨year, month, day⟩, text)

/-- The microseconds of a fraction of a second; what lies beyond them is dropped. -/
def readMicroseconds (text : List Char) : Nat × List Char :=
  match text with
  | '.' :: rest =>
    match rest.takeWhile Char.isDigit with
    | [] => (0, text)
    | digits =>
      (digitsValue (digits.take 6 ++ List.replicate (6 - digits.length) '0'),
        rest.dropWhile Char.isDigit)
  | _ => (0, text)

/-- A time of day. -/
def readTime? (text : List Char) : Option (Time × List Char) := do
  let (hour, text) ← readField? 2 0 23 text
  let (minute, text) ← readField? 2 0 59 (← skipChar? ':' text)
  let (second, text) ← readField? 2 0 59 (← skipChar? ':' text)
  let (microsecond, text) := readMicroseconds text
  return (⟨hour, minute, second, microsecond⟩, text)

/-- Hours and minutes from universal time. -/
def readShift? (sign : Sign) (text : List Char) : Option (Int × List Char) := do
  let (hours, text) ← readField? 2 0 23 text
  let (minutes, text) ← readField? 2 0 59 (← skipChar? ':' text)
  return (sign.apply (60 * hours + minutes), text)

/-- An offset from universal time in minutes. -/
def readOffset? : List Char → Option (Int × List Char)
  | 'Z' :: rest => some (0, rest)
  | 'z' :: rest => some (0, rest)
  | '+' :: rest => readShift? .plus rest
  | '-' :: rest => readShift? .minus rest
  | _ => none

/-- The time behind a date, after a letter or a space. -/
def readTimeBehind? : List Char → Option (Time × List Char)
  | c :: rest => if c = 'T' ∨ c = 't' ∨ c = ' ' then readTime? rest else none
  | [] => none

/-- A date, with the time behind it if there is one. -/
def readDated? (text : List Char) : Option (Except ReadError (Value × List Char)) := do
  let (date, rest) ← readDate? text
  if date.isValid then
    match readTimeBehind? rest with
    | none => return .ok (.date date, rest)
    | some (time, rest) =>
      match readOffset? rest with
      | none => return .ok (.moment ⟨date, time, none⟩, rest)
      | some (offset, rest) => return .ok (.moment ⟨date, time, some offset⟩, rest)
  else return stopAt .invalidDate text

/-- A date or a time, if one is there. -/
def readDateOrTime? (text : List Char) : Option (Except ReadError (Value × List Char)) :=
  match readDated? text with
  | some result => some result
  | none => (readTime? text).map fun (time, rest) ↦ .ok (.time time, rest)

end RegisterMachine.Toml
