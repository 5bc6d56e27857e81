import RegisterMachine.Toml.DateTime
import RegisterMachine.Toml.Nest
import RegisterMachine.Toml.Number
import RegisterMachine.Toml.Room

/-!
# Values of a document

Any value: a string, a number, a date or time, a truth value, an array, or a table on one line.
Arrays and tables hold values, but the room for values inside values is limited. What holds values
is read with a reader for these, which has less room: two steps less in an array, and three in a
table.
-/

namespace RegisterMachine.Toml

/-- Skips space, line feeds and comments between the items of an array, with a bound on the
number of comments. -/
def skipBetweenWithin (room : Nat) : Nat → List Char → Except ReadError (List Char)
  | 0, text => .ok text
  | comments + 1, text => do
    match text.dropWhile isSpaceOrNewline with
    | '#' :: rest =>
      Need.comment.check room
      skipBetweenWithin room comments (← skipComment ('#' :: rest))
    | rest => return rest

/-- Skips space, line feeds and comments between the items of an array. -/
def skipBetween (room : Nat) (text : List Char) : Except ReadError (List Char) :=
  skipBetweenWithin room (text.length + 1) text

/-- The keys of a table on one line whose values are complete. -/
abbrev Frozen := List Key

/-- Whether a key is, or lies below, one whose value is complete. -/
def Frozen.covers (frozen : Frozen) (key : Key) : Bool := frozen.any (·.isPrefixOf key)

/-- A value without parts that starts with no quote: a date or time, or a number. A date also
starts like a number, so dates come first. -/
def readPlain (text : List Char) : Except ReadError (Value × List Char) :=
  match readDateOrTime? text with
  | some result => result
  | none =>
    match readNumber? text with
    | some result => result
    | none => stopAt .invalidValue text

/-- A value without parts, however much room there is. -/
def readScalar (text : List Char) : Except ReadError (Value × List Char) :=
  match readString? text with
  | some result => result.map fun (s, rest) ↦ (.string s, rest)
  | none =>
    match text with
    | 't' :: 'r' :: 'u' :: 'e' :: rest => .ok (.boolean true, rest)
    | 'f' :: 'a' :: 'l' :: 's' :: 'e' :: rest => .ok (.boolean false, rest)
    | _ => readPlain text

/-- The part of a text before the rest. -/
def upTo (rest text : List Char) : List Char := text.take (text.length - rest.length)

/-- A value without parts. -/
def readScalarWithin (room : Nat) : Reader Value := fun text ↦ do
  let (value, rest) ← readScalar text
  if room < Need.ample then (Need.ofScalar (upTo rest text) value).check room
  return (value, rest)

/-- The items of an array from here on, with the bracket that ends it and a bound on their
number. -/
def readItems (room : Nat) (readItem : Reader Value) : Nat → Reader (List Value)
  | 0, text => stopAt .unclosedArray text
  | items + 1, text =>
    match text with
    | ']' :: rest => .ok ([], rest)
    | _ => do
      let (item, rest) ← readItem text
      match ← skipBetween room rest with
      | ']' :: rest => return ([item], rest)
      | ',' :: rest => do
        let (others, rest) ← readItems room readItem items (← skipBetween room rest)
        return (item :: others, rest)
      | rest => stopAt .unclosedArray rest

/-- A key with its value, in a table with this room. -/
def readPairWith (room : Nat) (readField : Reader Value) : Reader (Key × Value) := fun text ↦ do
  let (key, rest) ← readKey text
  if room < Need.keySteps + Need.ample then
    (Need.ofKey (upTo rest text)).check (room - Need.keySteps)
  match rest with
  | '=' :: rest => do
    let (value, rest) ← readField (skipSpace rest)
    return ((key, value), rest)
  | _ => stopAt .expectedEquals rest

/-- The entries of a table on one line from here on, with the brace that ends it and a bound on
their number. -/
def readEntries (room : Nat) (readField : Reader Value) : Nat → Frozen → Table → Reader Table
  | 0, _, _, text => stopAt .unclosedTable text
  | entries + 1, frozen, table, text => do
    let ((key, value), rest) ← readPairWith room readField text
    if frozen.covers key then stopAt (.immutable key) rest
    else
      let name := key.getLast?.getD ""
      match insertAt false key.dropLast name value table with
      | .error .noTable => stopAt .overwritten rest
      | .error .occupied => stopAt (.duplicateKey name) rest
      | .ok table =>
        match skipSpace rest with
        | '\x7d' :: rest => return (table, rest)
        | ',' :: rest =>
          readEntries room readField entries
            (if value.isCompound then key :: frozen else frozen) table (skipSpace rest)
        | rest => stopAt .unclosedTable rest

/-- Any value, with readers for the items of an array and for the values of a table. -/
def readValueWith (room : Nat) (readItem readField : Reader Value) : Reader Value := fun text ↦
  match text with
  | '[' :: rest => do
    Need.array.check room
    let rest ← skipBetween room rest
    let (items, rest) ← readItems room readItem (rest.length + 1) rest
    return (.array items, rest)
  | '\x7b' :: rest => do
    Need.emptyTable.check room
    match skipSpace rest with
    | '\x7d' :: rest => return (.table [], rest)
    | rest => do
      Need.entry.check room
      let (entries, rest) ← readEntries room readField (rest.length + 1) [] [] rest
      return (.table entries, rest)
  | _ => readScalarWithin room text

/-- Reads nothing, for want of room. -/
def readNothing : Reader Value := fun _ ↦ .error (.tooDeep .reading)

/-- Any value, in a room of this many steps. -/
def readValue : Nat → Reader Value
  | room + 3, text =>
    withinRoom (room + 3) (readValueWith (room + 3) (readValue (room + 1)) (readValue room) text)
  | room, text => withinRoom room (readValueWith room readNothing readNothing text)

/-- A key with any value, in a table with this room. -/
def readPair (room : Nat) : Reader (Key × Value) := readPairWith room (readValue (room - 3))

end RegisterMachine.Toml
