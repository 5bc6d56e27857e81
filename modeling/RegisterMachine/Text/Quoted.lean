import RegisterMachine.Text.Printable

/-!
# Quoted text

A text is shown between quotes so that every character can be told apart. Single quotes stand
around it, and double quotes when the text has a single quote and no double quote. A backslash
stands before the quote in use and before a backslash; line feed, carriage return and tab have
short escapes, and any other unprintable character is given by its code point.
-/

namespace RegisterMachine.Text

/-- The digits of `n` to the base sixteen, filled with zeros on the left up to `width`. -/
def hexDigits (width n : Nat) : List Char :=
  let digits := Nat.toDigits 16 n
  List.replicate (width - digits.length) '0' ++ digits

/-- An unprintable character by its code point, in the shortest of three widths. -/
def escapeCode (c : Char) : List Char :=
  let n := c.toNat
  if n ≤ 0xFF then '\\' :: 'x' :: hexDigits 2 n
  else if n ≤ 0xFFFF then '\\' :: 'u' :: hexDigits 4 n
  else '\\' :: 'U' :: hexDigits 8 n

/-- One character of a text between quotes of the given kind. -/
def escapeChar (quote c : Char) : List Char :=
  if c = quote ∨ c = '\\' then ['\\', c]
  else if c = '\n' then ['\\', 'n']
  else if c = '\r' then ['\\', 'r']
  else if c = '\t' then ['\\', 't']
  else if isPrintable c then [c]
  else escapeCode c

/-- The quote that stands around a text. -/
def quoteFor (text : List Char) : Char :=
  if '\x27' ∈ text ∧ '"' ∉ text then '"' else '\x27'

/-- The text between quotes. -/
def quoted (text : String) : String :=
  let quote := quoteFor text.toList
  String.ofList (quote :: text.toList.flatMap (escapeChar quote) ++ [quote])

end RegisterMachine.Text
