import RegisterMachine.Toml.Problem
import RegisterMachine.Toml.Value

/-!
# Room for reading

Values lie inside each other, and so do the steps in which they are read, whose number is limited.
The *room* of a reader is the number of steps that may still lie inside it. How much a value needs
depends on how it is written. A need lists what overflows for each room that is too small, so its
length is the least room that is enough.
-/

namespace RegisterMachine.Toml

/-- A need of room: its item number `room` is what overflows where there is only this much. -/
abbrev Need := List Overflow

namespace Need

/-- Refuses a room that is too small. -/
def check (need : Need) (room : Nat) : Except ReadError Unit :=
  match need[room]? with
  | some overflow => .error (.tooDeep overflow)
  | none => .ok ()

/-! ### Values without parts -/

/-- Whether a character that satisfies `mark` stands behind a backslash. -/
def hasEscape (mark : Char → Bool) : List Char → Bool
  | '\\' :: c :: rest => mark c || hasEscape mark rest
  | _ :: rest => hasEscape mark rest
  | [] => false

/-- What the escapes of a string need, or `plain` where it has none. An escape may give a character
by its number, or skip the end of a line. -/
def ofEscapes (plain : Need) (written : List Char) : Need :=
  if hasEscape (fun c ↦ c == 'u' || c == 'U') written then
    [.reading, .reading, .reading, .operation, .comparison]
  else if hasEscape (fun c ↦ c == ' ' || c == '\t' || c == '\n') written then
    [.reading, .reading, .reading]
  else if hasEscape (fun _ ↦ true) written then [.reading, .reading]
  else plain

/-- What a string needs. -/
def ofString : List Char → Need
  | '"' :: '"' :: '"' :: rest => .operation :: .operation :: ofEscapes [.operation] rest
  | '"' :: rest => .operation :: ofEscapes [.reading] rest
  | '\x27' :: '\x27' :: '\x27' :: _ => [.operation, .operation, .operation]
  | _ => [.operation, .reading, .operation]

/-- What a word needs. -/
def word : Need := [.operation]

/-- What a number, a date or a time needs. -/
def number : Need := [.operation, .operation]

/-- What a date and time with hours and minutes of an offset needs. -/
def shifted : Need := [.operation, .operation, .comparison, .comparison]

/-- Whether a character is a sign. -/
def isSign (c : Char) : Bool := c == '+' || c == '-'

/-- What a value without parts needs. The sign of an offset stands behind the ten characters of
the date. -/
def ofScalar (written : List Char) : Value → Need
  | .string _ => ofString written
  | .boolean _ => word
  | .fraction _ => if (written.dropWhile isSign).head?.any Char.isDigit then number else word
  | .moment _ => if (written.drop 10).any isSign then shifted else number
  | _ => number

/-- Room that is enough for every value without parts. -/
def ample : Nat := 7

/-! ### Values with parts -/

/-- What an array needs for itself. -/
def array : Need := [.reading, .reading, .reading]

/-- What an array with a comment needs. -/
def comment : Need := [.reading, .reading, .reading, .reading, .operation]

/-- What an empty table on one line needs. -/
def emptyTable : Need := [.reading, .operation, .reading]

/-- What a table on one line needs for an entry. -/
def entry : Need := [.reading, .operation, .reading, .reading, .reading]

/-- The steps from a table on one line to a part of a key. -/
def keySteps : Nat := 4

/-- What a key needs for its parts in quotes. -/
def ofKey (written : List Char) : Need :=
  match written.dropWhile (fun c ↦ c != '"' && c != '\x27') with
  | [] => []
  | quoted => ofString quoted

/-! ### Problems -/

/-- The steps from a value to the reader that finds a problem with it. -/
def stepsTo : Problem → Nat
  | .unclosedArray => 1
  | .unclosedTable => 1
  | .immutable _ => 1
  | .duplicateKey _ => 1
  | .overwritten => 1
  | .expectedEquals => 2
  | .unterminatedString => 2
  | .missingDelimiter _ => 2
  | .illegalCharacter _ => 2
  | .foundInvalid _ => 2
  | .strayBackslash => 3
  | .invalidHex => 4
  | .notScalar => 4
  | .invalidKey => keySteps
  | _ => 0

/-- What it needs to say that a value has a problem. Its place is counted, unless it is the end.
A date is only found to be wrong when it is made. -/
def ofProblem (problem : Problem) (left : Nat) : Need :=
  if problem = .invalidDate then [.operation, .operation, .operation]
  else List.replicate (stepsTo problem + 2) .reading ++ if left = 0 then [] else [.operation]

end Need

/-- The outcome of reading a value, where a problem is one that there is room to tell. -/
def withinRoom {α : Type} (room : Nat) : Except ReadError α → Except ReadError α
  | .error (.malformed problem left) => do
    (Need.ofProblem problem left).check room
    .error (.malformed problem left)
  | result => result

end RegisterMachine.Toml
