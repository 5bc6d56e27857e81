import RegisterMachine.Diagnostic
import RegisterMachine.Text.Blank
import RegisterMachine.Text.WordChar

/-!
# Scanning a source line

A scanner takes one token off the front of a text and returns the rest. Before every token it
skips spaces, tabs, line feeds and carriage returns, and no other blanks. When it stops, it tells
what it looked for and how many characters were left, from which the place in the whole text
follows.

The tokens end by different rules. An identifier is as long as it can be and may be followed by
anything. The word for an opcode must not be followed by a letter, digit, underscore or dollar of
ASCII. The name of a register must not be followed by a word character of any script. A number
must be followed by a blank or by the end.
-/

namespace RegisterMachine.Source

open Text

/-- Why scanning stopped. -/
inductive ScanError where
  /-- The text is not as expected, with this many characters left. -/
  | mismatch (complaint : Complaint) (left : Nat)
  /-- A number has too many digits. -/
  | digits (e : DigitError)
deriving DecidableEq, Repr

/-- Takes a token off the front of a text. -/
abbrev Scanner (α : Type) := List Char → Except ScanError (α × List Char)

/-- Stops where `rest` is left. -/
def stopAt {α : Type} (what : Expectation) (rest : List Char) : Except ScanError α :=
  .error (.mismatch (.expected what) rest.length)

/-! ### Characters -/

/-- The characters skipped before a token. -/
def isSkipped (c : Char) : Bool := c == ' ' || c == '\t' || c == '\n' || c == '\r'

/-- The text from its next token on. -/
def skip (text : List Char) : List Char := text.dropWhile isSkipped

/-- The characters an identifier starts with. -/
def isIdentStart (c : Char) : Bool := c.isAlpha || c == '_'

/-- The characters an identifier goes on with. -/
def isIdentChar (c : Char) : Bool := c.isAlphanum || c == '_'

/-- The characters that must not follow the word for an opcode. -/
def isKeywordChar (c : Char) : Bool := isIdentChar c || c == '$'

/-- Whether the first character, if there is one, satisfies the test. -/
def startsWith (test : Char → Bool) (text : List Char) : Bool := text.head?.any test

/-! ### Tokens -/

/-- The longest identifier at the very front of a text. -/
def identifier? : List Char → Option (String × List Char)
  | [] => none
  | c :: rest =>
    if isIdentStart c then
      some (String.ofList (c :: rest.takeWhile isIdentChar), rest.dropWhile isIdentChar)
    else none

/-- An identifier, reported as `what` when it is missing. -/
def scanIdentifier (what : Expectation) : Scanner String := fun text ↦
  match identifier? (skip text) with
  | some token => .ok token
  | none => stopAt what (skip text)

/-- An identifier with a colon directly after it. -/
def scanLabel : Scanner String := fun text ↦
  match identifier? (skip text) with
  | some (name, ':' :: rest) => .ok (name, rest)
  | some (_, rest) => stopAt .label rest
  | none => stopAt .label (skip text)

/-- The word for an opcode. -/
def scanKeyword (op : Opcode) : Scanner Unit := fun text ↦
  match op.mnemonic.toList.isPrefixOf? (skip text) with
  | some rest =>
    if startsWith isKeywordChar rest then stopAt (.keywordEnd op) rest else .ok ((), rest)
  | none => stopAt (.keyword op) (skip text)

/-- The length of a register's name. -/
abbrev registerWidth : Nat := 3

/-- The name of a register. -/
def scanRegister : Scanner Register := fun text ↦
  let rest := (skip text).drop registerWidth
  match Register.ofName? (String.ofList ((skip text).take registerWidth)) with
  | some r => if startsWith isWordChar rest then stopAt .register (skip text) else .ok (r, rest)
  | none => stopAt .register (skip text)

/-- The sign at the front of a text, plus if there is none. -/
def takeSign : List Char → Sign × List Char
  | '+' :: rest => (.plus, rest)
  | '-' :: rest => (.minus, rest)
  | text => (.plus, text)

/-- The least integer that a source line can give. -/
def literalMin : Int := -0x80000000

/-- The greatest integer that a source line can give. -/
def literalMax : Int := 0x7FFFFFFF

/-- A decimal integer of 32 bits, with or without a sign. -/
def scanInteger : Scanner Int := fun text ↦
  let (sign, unsigned) := takeSign (skip text)
  let digits := unsigned.takeWhile Char.isDigit
  let rest := unsigned.dropWhile Char.isDigit
  if digits.isEmpty || startsWith (!isBlank ·) rest then stopAt .integer (skip text)
  else
    match readDecimal sign digits with
    | .error e => .error (.digits e)
    | .ok value =>
      if literalMin ≤ value ∧ value ≤ literalMax then .ok (value, rest)
      else .error (.mismatch (.outOfRange value) (skip text).length)

/-- The end of the text. -/
def scanEnd : Scanner Unit := fun text ↦
  match skip text with
  | [] => .ok ((), [])
  | rest => stopAt .endOfText rest

end RegisterMachine.Source
