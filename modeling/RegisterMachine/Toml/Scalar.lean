import RegisterMachine.Toml.Problem
import RegisterMachine.Toml.Value

/-!
# Strings and keys of a document

The parts of a document without parts of their own. Strings stand between single quotes as they
are, or between double quotes with escapes; three quotes let a string run over several lines.
-/

namespace RegisterMachine.Toml

open Text

/-! ### Characters -/

/-- Spaces and tabs. -/
def isSpace (c : Char) : Bool := c == ' ' || c == '\t'

/-- Spaces, tabs and line feeds. -/
def isSpaceOrNewline (c : Char) : Bool := isSpace c || c == '\n'

/-- The control characters of ASCII other than the tab. -/
def isControl (c : Char) : Bool := (c.toNat < 0x20 && c != '\t') || c.toNat == 0x7F

/-- The control characters of ASCII other than tab and line feed. -/
def isLineControl (c : Char) : Bool := isControl c && c != '\n'

/-- The characters of a key without quotes. -/
def isBareKeyChar (c : Char) : Bool := c.isAlphanum || c == '-' || c == '_'

/-- A digit to the base sixteen. -/
def isHexDigit (c : Char) : Bool :=
  c.isDigit || ('a' ≤ c && c ≤ 'f') || ('A' ≤ c && c ≤ 'F')

/-- The value of a digit to a base up to sixteen. -/
def digitValue (c : Char) : Nat :=
  if c.isDigit then c.toNat - '0'.toNat
  else if 'a' ≤ c then c.toNat - 'a'.toNat + 10
  else c.toNat - 'A'.toNat + 10

/-- The value of a run of digits to a base. -/
def valueToBase (base : Nat) (digits : List Char) : Nat :=
  digits.foldl (fun n c ↦ base * n + digitValue c) 0

/-- The text from the next character that is no space or tab. -/
def skipSpace (text : List Char) : List Char := text.dropWhile isSpace

/-! ### Comments and strings without escapes -/

/-- Cuts a text before and after the first place where the delimiter stands. -/
def cutAt (delimiter : List Char) : List Char → Option (List Char × List Char)
  | [] => none
  | c :: rest =>
    match delimiter.isPrefixOf? (c :: rest) with
    | some after => some ([], after)
    | none => (cutAt delimiter rest).map fun (before, after) ↦ (c :: before, after)

/-- Refuses a text before `after` that holds a forbidden character. -/
def checkChars (forbidden : Char → Bool) (before after : List Char) : Except ReadError Unit :=
  match before.dropWhile (!forbidden ·) with
  | [] => .ok ()
  | c :: rest => stopAt (.foundInvalid c) (c :: rest ++ after)

/-- Skips a comment, up to the line feed after it. -/
def skipComment : List Char → Except ReadError (List Char)
  | '#' :: rest => do
    let after := rest.dropWhile (· != '\n')
    checkChars isControl (rest.takeWhile (· != '\n')) after
    return after
  | text => .ok text

/-- The rest of a string without escapes, up to the delimiter. -/
def readLiteral (delimiter : List Char) (forbidden : Char → Bool) : Reader (List Char) :=
  fun text ↦ do
    match cutAt delimiter text with
    | none => stopAt (.missingDelimiter (String.ofList delimiter)) []
    | some (before, after) =>
      checkChars forbidden before (delimiter ++ after)
      return (before, after)

/-! ### Strings with escapes -/

/-- A character given by `width` digits to the base sixteen. -/
def readHexChar (width : Nat) : Reader (List Char) := fun text ↦
  let digits := text.take width
  if digits.length = width ∧ digits.all isHexDigit then
    let code := valueToBase 16 digits
    if code.isValidChar then .ok ([Char.ofNat code], text.drop width)
    else stopAt .notScalar (text.drop width)
  else stopAt .invalidHex text

/-- A backslash at the end of a line, which is skipped with all space after it. -/
def readLineEnd (text : List Char) : Except ReadError (List Char × List Char) :=
  match skipSpace text with
  | [] => .ok ([], [])
  | '\n' :: rest => .ok ([], rest.dropWhile isSpaceOrNewline)
  | rest => stopAt .strayBackslash rest

/-- What stands after a backslash. -/
def readEscape (multiline : Bool) : Reader (List Char)
  | [] => stopAt .strayBackslash []
  | c :: rest =>
    if multiline ∧ isSpaceOrNewline c then readLineEnd (c :: rest)
    else
      match c with
      | 'b' => .ok (['\x08'], rest)
      | 't' => .ok (['\t'], rest)
      | 'n' => .ok (['\n'], rest)
      | 'f' => .ok (['\x0c'], rest)
      | 'r' => .ok (['\r'], rest)
      | '"' => .ok (['"'], rest)
      | '\\' => .ok (['\\'], rest)
      | 'u' => readHexChar 4 rest
      | 'U' => readHexChar 8 rest
      | _ => stopAt .strayBackslash rest

/-- The rest of a string with escapes, up to the quotes that end it. Every round takes at least
one character, so the length of the text bounds the rounds. -/
def readBasicWithin (multiline : Bool) : Nat → Reader (List Char)
  | 0, text => stopAt .unterminatedString text
  | _, [] => stopAt .unterminatedString []
  | rounds + 1, c :: rest =>
    if c = '"' then
      if multiline then
        match rest with
        | '"' :: '"' :: after => .ok ([], after)
        | _ => do
          let (chars, after) ← readBasicWithin multiline rounds rest
          return ('"' :: chars, after)
      else .ok ([], rest)
    else if c = '\\' then do
      let (escaped, after) ← readEscape multiline rest
      let (chars, after) ← readBasicWithin multiline rounds after
      return (escaped ++ chars, after)
    else if (if multiline then isLineControl c else isControl c) then
      stopAt (.illegalCharacter c) (c :: rest)
    else do
      let (chars, after) ← readBasicWithin multiline rounds rest
      return (c :: chars, after)

/-- The rest of a string with escapes. -/
def readBasic (multiline : Bool) : Reader (List Char) := fun text ↦
  readBasicWithin multiline (text.length + 1) text

/-- Up to two more quotes that belong to a string before the three that end it. -/
def readExtraQuotes (quote : Char) (chars text : List Char) : List Char × List Char :=
  let extra := (text.take 2).takeWhile (· == quote)
  (chars ++ extra, text.drop extra.length)

/-- A text without the line feed at its front. -/
def dropNewline : List Char → List Char
  | '\n' :: rest => rest
  | text => text

/-- A string, if the text starts with a quote. -/
def readString? : List Char → Option (Except ReadError (String × List Char))
  | '"' :: '"' :: '"' :: rest => some do
    let (chars, after) ← readBasic true (dropNewline rest)
    let (chars, after) := readExtraQuotes '"' chars after
    return (String.ofList chars, after)
  | '"' :: rest => some do
    let (chars, after) ← readBasic false rest
    return (String.ofList chars, after)
  | '\x27' :: '\x27' :: '\x27' :: rest => some do
    let (chars, after) ← readLiteral ['\x27', '\x27', '\x27'] isLineControl (dropNewline rest)
    let (chars, after) := readExtraQuotes '\x27' chars after
    return (String.ofList chars, after)
  | '\x27' :: rest => some do
    let (chars, after) ← readLiteral ['\x27'] isControl rest
    return (String.ofList chars, after)
  | _ => none

/-! ### Keys -/

/-- One part of a dotted key: bare, or a string of one line. -/
def readKeyPart : Reader String
  | '"' :: rest => do
    let (chars, after) ← readBasic false rest
    return (String.ofList chars, after)
  | '\x27' :: rest => do
    let (chars, after) ← readLiteral ['\x27'] isControl rest
    return (String.ofList chars, after)
  | text =>
    match text.takeWhile isBareKeyChar with
    | [] => stopAt .invalidKey text
    | chars => .ok (String.ofList chars, text.dropWhile isBareKeyChar)

/-- A dotted key and the space after it, with a bound on its parts. -/
def readKeyWithin : Nat → Reader Key
  | 0, text => stopAt .invalidKey text
  | parts + 1, text => do
    let (part, text) ← readKeyPart text
    match skipSpace text with
    | '.' :: rest => do
      let (others, text) ← readKeyWithin parts (skipSpace rest)
      return (part :: others, text)
    | rest => return ([part], rest)

/-- A dotted key and the space after it. -/
def readKey : Reader Key := fun text ↦ readKeyWithin (text.length + 1) text

end RegisterMachine.Toml
