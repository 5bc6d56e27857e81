import RegisterMachine.Text.Decimal
import RegisterMachine.Text.Place
import RegisterMachine.Text.Quoted

/-!
# What can be wrong with a document

A problem with the place where the reader stood when it found it.
-/

namespace RegisterMachine.Toml

open Text

/-- The parts of a dotted key. -/
abbrev Key := List String

/-- What is wrong. -/
inductive Problem where
  | invalidStatement
  | expectedNewline
  | expectedEquals
  | expectedTableEnd
  | expectedTableArrayEnd
  /-- The table was declared before. -/
  | declaredTwice (key : Key)
  /-- A dotted key goes through a table that has a declaration of its own. -/
  | redefined (key : Key)
  /-- Something would be added to a value that is complete in itself. -/
  | immutable (key : Key)
  | overwritten
  | duplicateKey (name : String)
  | invalidKey
  | invalidValue
  /-- The calendar has no such day. -/
  | invalidDate
  | unclosedArray
  | unclosedTable
  | unterminatedString
  /-- A string or comment runs into the end, and these characters are missing. -/
  | missingDelimiter (delimiter : String)
  /-- A character that a string with escapes must not hold. -/
  | illegalCharacter (c : Char)
  /-- A character that a comment or a string without escapes must not hold. -/
  | foundInvalid (c : Char)
  | strayBackslash
  | invalidHex
  | notScalar
deriving DecidableEq, Repr

/-- A key as it is shown: its parts in quotes, between brackets. -/
def writeKey : Key → String
  | [part] => "(" ++ quoted part ++ ",)"
  | parts => "(" ++ ", ".intercalate (parts.map quoted) ++ ")"

/-- The wording of a problem. -/
def Problem.message : Problem → String
  | invalidStatement => "Invalid statement"
  | expectedNewline => "Expected newline or end of document after a statement"
  | expectedEquals => "Expected '=' after a key in a key/value pair"
  | expectedTableEnd => "Expected ']' at the end of a table declaration"
  | expectedTableArrayEnd => "Expected ']]' at the end of an array declaration"
  | declaredTwice key => "Cannot declare " ++ writeKey key ++ " twice"
  | redefined key => "Cannot redefine namespace " ++ writeKey key
  | immutable key => "Cannot mutate immutable namespace " ++ writeKey key
  | overwritten => "Cannot overwrite a value"
  | duplicateKey name => "Duplicate inline table key " ++ quoted name
  | invalidKey => "Invalid initial character for a key part"
  | invalidValue => "Invalid value"
  | invalidDate => "Invalid date or datetime"
  | unclosedArray => "Unclosed array"
  | unclosedTable => "Unclosed inline table"
  | unterminatedString => "Unterminated string"
  | missingDelimiter delimiter => "Expected " ++ quoted delimiter
  | illegalCharacter c => "Illegal character " ++ quoted (String.singleton c)
  | foundInvalid c => "Found invalid character " ++ quoted (String.singleton c)
  | strayBackslash => "Unescaped '\\' in a string"
  | invalidHex => "Invalid hex value"
  | notScalar => "Escaped character is not a Unicode scalar value"

/-- What the step did for which there was no room left. -/
inductive Overflow where
  /-- It read a part of the document. -/
  | reading
  /-- It applied an operation on texts or numbers. -/
  | operation
  /-- It compared two things. -/
  | comparison
deriving DecidableEq, Repr

/-- The wording of an overflow. -/
def Overflow.message : Overflow → String
  | reading => "maximum recursion depth exceeded"
  | operation => "maximum recursion depth exceeded while calling a Python object"
  | comparison => "maximum recursion depth exceeded in comparison"

/-- Why a document cannot be read. -/
inductive ReadError where
  /-- It has a problem, with this many characters left. -/
  | malformed (problem : Problem) (left : Nat)
  /-- A number has too many digits. -/
  | digits (e : DigitError)
  /-- Too many values lie inside each other. -/
  | tooDeep (overflow : Overflow)
deriving DecidableEq, Repr

/-- The wording of an error in a document. -/
def ReadError.message (document : List Char) : ReadError → String
  | digits e => e.message
  | tooDeep overflow => overflow.message
  | malformed problem left =>
    let offset := offsetOf document left
    let place :=
      if left = 0 then "end of document"
      else "line " ++ (lineOf document offset).repr ++ ", column " ++
        (columnOf document offset).repr
    problem.message ++ " (at " ++ place ++ ")"

/-- Takes something off the front of a text. -/
abbrev Reader (α : Type) := List Char → Except ReadError (α × List Char)

/-- Stops where `rest` is left. -/
def stopAt {α : Type} (problem : Problem) (rest : List Char) : Except ReadError α :=
  .error (.malformed problem rest.length)

end RegisterMachine.Toml
