import RegisterMachine.Toml.Compound

/-!
# Documents

A document is a sequence of lines: a key with a value, the head of a table, or the head of one
more table of an array. A head says where the keys below it belong. What was declared once is not
declared again, and a value that is complete in itself is not added to. The room for reading is
that of a table.
-/

namespace RegisterMachine.Toml

/-- What has been read of a document. -/
structure Document where
  root : Table := []
  /-- The table that the next keys belong to. -/
  head : Key := []
  /-- The tables with a head, or with dotted keys under an earlier head. -/
  declared : List Key := []
  /-- The tables with dotted keys under the present head. -/
  pending : List Key := []
  /-- The keys whose values are complete. -/
  frozen : Frozen := []

namespace Document

/-- Reads `name = value` under the present head. -/
def readEntry (room : Nat) (document : Document) : Reader Document := fun text ↦ do
  let ((key, value), rest) ← readPair room text
  let parents := (List.range (key.length - 1)).map fun i ↦ document.head ++ key.take (i + 1)
  match parents.find? document.declared.contains with
  | some parent => stopAt (.redefined parent) rest
  | none =>
    let parent := document.head ++ key.dropLast
    if document.frozen.covers parent then stopAt (.immutable parent) rest
    else
      match insertAt true parent (key.getLast?.getD "") value document.root with
      | .error _ => stopAt .overwritten rest
      | .ok root =>
        let frozen :=
          if value.isCompound then (document.head ++ key) :: document.frozen else document.frozen
        return ({ document with root, frozen, pending := document.pending ++ parents }, rest)

/-- The document at the next head: the tables with dotted keys are declared from now on. -/
def settle (document : Document) : Document :=
  { document with declared := document.declared ++ document.pending, pending := [] }

/-- Reads the head of a table, from the bracket on. -/
def readHead (document : Document) : Reader Document := fun text ↦ do
  let (key, rest) ← readKey (skipSpace (text.drop 1))
  if document.declared.contains key || document.frozen.covers key then
    stopAt (.declaredTwice key) rest
  else
    match openTable key document.root with
    | .error _ => stopAt .overwritten rest
    | .ok root =>
      match rest with
      | ']' :: rest =>
        return ({ document with root, head := key, declared := key :: document.declared }, rest)
      | _ => stopAt .expectedTableEnd rest

/-- Reads the head of one more table of an array, from the brackets on. What was said of the table
before it does not bind the new one. -/
def readArrayHead (document : Document) : Reader Document := fun text ↦ do
  let (key, rest) ← readKey (skipSpace (text.drop 2))
  if document.frozen.covers key then stopAt (.immutable key) rest
  else
    match openTableArray key.dropLast (key.getLast?.getD "") document.root with
    | .error _ => stopAt .overwritten rest
    | .ok root =>
      match rest with
      | ']' :: ']' :: rest =>
        let apart (other : Key) : Bool := !key.isPrefixOf other
        return ({ document with
          root, head := key
          declared := key :: document.declared.filter apart
          frozen := document.frozen.filter apart }, rest)
      | _ => stopAt .expectedTableArrayEnd rest

/-- Reads what stands on a line, if anything does. -/
def readStatement (room : Nat) (document : Document) : Reader Document := fun text ↦
  match text with
  | '[' :: '[' :: _ => document.settle.readArrayHead text
  | '[' :: _ => document.settle.readHead text
  | '#' :: _ => .ok (document, text)
  | '"' :: _ => document.readEntry room text
  | '\x27' :: _ => document.readEntry room text
  | c :: _ =>
    if isBareKeyChar c then document.readEntry room text else stopAt .invalidStatement text
  | [] => .ok (document, [])

/-- Reads lines to the end, with a bound on their number. -/
def readLines (room : Nat) : Nat → Document → List Char → Except ReadError Document
  | 0, document, _ => .ok document
  | lines + 1, document, text => do
    match skipSpace text with
    | [] => return document
    | '\n' :: rest => readLines room lines document rest
    | text =>
      let (document, rest) ← document.readStatement room text
      match ← skipComment (skipSpace rest) with
      | [] => return document
      | '\n' :: rest => readLines room lines document rest
      | rest => stopAt .expectedNewline rest

end Document

/-- Reads a document, in a room of this many steps. -/
def readDocument (room : Nat) (text : List Char) : Except ReadError Table :=
  (Document.readLines room (text.length + 1) {} text).map (·.root)

end RegisterMachine.Toml
