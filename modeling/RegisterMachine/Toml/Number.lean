import RegisterMachine.Toml.Scalar

/-!
# Numbers of a document

Whole numbers are decimal, or have one of three other bases; single underscores may stand between
digits. A decimal with a fraction or an exponent is a number with binary places, and so are the
words for infinity and for what is no number.
-/

namespace RegisterMachine.Toml

open Text

/-- The digits that go on a number, single underscores between them left out. -/
def takeDigits (isDigit : Char → Bool) : List Char → List Char × List Char
  | [] => ([], [])
  | c :: rest =>
    if isDigit c then
      let (digits, after) := takeDigits isDigit rest
      (c :: digits, after)
    else if c = '_' ∧ rest.head?.any isDigit then takeDigits isDigit rest
    else ([], c :: rest)

/-- A run of digits, if at least one is there. -/
def readDigits? (isDigit : Char → Bool) (text : List Char) : Option (List Char × List Char) :=
  if text.head?.any isDigit then some (takeDigits isDigit text) else none

/-- The value of a run of digits to a base, if at least one is there. -/
def readToBase? (base : Nat) (isDigit : Char → Bool) (text : List Char) :
    Option (Nat × List Char) :=
  (readDigits? isDigit text).map fun (digits, after) ↦ (valueToBase base digits, after)

/-- A number without sign to the base sixteen, two or eight, if one is there. -/
def readBased? : List Char → Option (Nat × List Char)
  | '0' :: 'x' :: rest => readToBase? 16 isHexDigit rest
  | '0' :: 'b' :: rest => readToBase? 2 (fun c ↦ c == '0' || c == '1') rest
  | '0' :: 'o' :: rest => readToBase? 8 (fun c ↦ '0' ≤ c && c ≤ '7') rest
  | _ => none

/-- The sign at the front of a text. -/
def readSign : List Char → Sign × List Char
  | '+' :: rest => (.plus, rest)
  | '-' :: rest => (.minus, rest)
  | text => (.plus, text)

/-- The digits of a whole number, if they are there. Only zero starts with a zero. -/
def readWhole? : List Char → Option (List Char × List Char)
  | '0' :: rest => some (['0'], rest)
  | text => readDigits? Char.isDigit text

/-- The digits after a point, if both are there. -/
def readFraction? : List Char → Option (List Char × List Char)
  | '.' :: rest => readDigits? Char.isDigit rest
  | _ => none

/-- An exponent of ten after its mark, if both are there. -/
def readExponent? : List Char → Option (Int × List Char)
  | c :: rest =>
    if c = 'e' ∨ c = 'E' then
      let (sign, unsigned) := readSign rest
      (readDigits? Char.isDigit unsigned).map fun (digits, after) ↦
        (sign.apply (digitsValue digits), after)
    else none
  | [] => none

/-- A decimal number, if one is there. -/
def readDecimal? (text : List Char) : Option (Except ReadError (Value × List Char)) := do
  let (sign, unsigned) := readSign text
  let (whole, rest) ← readWhole? unsigned
  let fraction? := readFraction? rest
  let (fraction, rest) := fraction?.getD ([], rest)
  let exponent? := readExponent? rest
  let (exponent, rest) := exponent?.getD (0, rest)
  if fraction?.isNone ∧ exponent?.isNone then
    match readDecimal sign whole with
    | .ok n => return .ok (.integer n, rest)
    | .error e => return .error (.digits e)
  else
    let number := Binary64.ofDecimal sign (digitsValue (whole ++ fraction))
      (exponent - fraction.length)
    return .ok (.fraction number, rest)

/-- The word for infinity or for what is no number, after a sign if there is one. -/
def readSpecial? (text : List Char) : Option (Value × List Char) :=
  match readSign text with
  | (sign, 'i' :: 'n' :: 'f' :: rest) => some (.fraction (.infinite sign), rest)
  | (_, 'n' :: 'a' :: 'n' :: rest) => some (.fraction .undefined, rest)
  | _ => none

/-- Any number, if one is there. -/
def readNumber? (text : List Char) : Option (Except ReadError (Value × List Char)) :=
  match readBased? text with
  | some (n, rest) => some (.ok (.integer n, rest))
  | none =>
    match readDecimal? text with
    | some result => some result
    | none => (readSpecial? text).map .ok

end RegisterMachine.Toml
