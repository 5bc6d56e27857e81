import RegisterMachine.Calendar
import RegisterMachine.Number.Shortest
import RegisterMachine.Text.Quoted

/-!
# Values of a settings file

The values of a document in the TOML format that settings are made of, and the text in which they
are shown. Tables keep their keys in the order in which these were given. What is absent is no
value of a document, but settings that are given by hand may hold it inside arrays and tables.
-/

namespace RegisterMachine.Toml

open Text Calendar

/-- A value of a document. -/
inductive Value where
  /-- No value at all. -/
  | absent
  | boolean (b : Bool)
  | integer (n : Int)
  /-- A number with a fraction or an exponent. -/
  | fraction (x : Binary64)
  | string (s : String)
  | date (d : Date)
  | time (t : Time)
  | moment (m : Moment)
  | array (items : List Value)
  | table (entries : List (String × Value))
deriving Inhabited

/-- Keys with their values. -/
abbrev Table := List (String × Value)

/-- Whether a value counts as set: everything but `false`, zero and what is absent or empty. -/
def Value.isSet : Value → Bool
  | absent => false
  | boolean b => b
  | integer n => n != 0
  | fraction x => x.isSet
  | string s => s != ""
  | date _ => true
  | time _ => true
  | moment _ => true
  | array items => !items.isEmpty
  | table entries => !entries.isEmpty

/-- The word for the kind of a value. -/
def Value.kind : Value → String
  | absent => "NoneType"
  | boolean _ => "bool"
  | integer _ => "int"
  | fraction _ => "float"
  | string _ => "str"
  | date _ => "datetime.date"
  | time _ => "datetime.time"
  | moment _ => "datetime.datetime"
  | array _ => "list"
  | table _ => "dict"

/-- Whether a value is made of values. -/
def Value.isCompound : Value → Bool
  | array _ => true
  | table _ => true
  | _ => false

mutual

/-- The text of a value, however deep it is. -/
def Value.write : Value → Except DigitError String
  | .absent => .ok "None"
  | .boolean true => .ok "True"
  | .boolean false => .ok "False"
  | .integer n => writeDecimal n
  | .fraction x => .ok x.write
  | .string s => .ok (quoted s)
  | .date d => .ok d.write
  | .time t => .ok t.write
  | .moment m => .ok m.write
  | .array items => do return "[" ++ ", ".intercalate (← writeItems items) ++ "]"
  | .table entries => do return "\x7b" ++ ", ".intercalate (← writeEntries entries) ++ "\x7d"

/-- The texts of the items of an array. -/
def writeItems : List Value → Except DigitError (List String)
  | [] => .ok []
  | item :: rest => do return (← item.write) :: (← writeItems rest)

/-- The texts of the entries of a table. -/
def writeEntries : List (String × Value) → Except DigitError (List String)
  | [] => .ok []
  | (key, value) :: rest => do
    return (quoted key ++ ": " ++ (← value.write)) :: (← writeEntries rest)

end

mutual

/-- How many steps lie inside each other when a value is shown: one for the value, those for what
lies in it, and one or two for the offset of a moment, which is shortest at universal time. -/
def Value.depth : Value → Nat
  | .array items => depthOfItems items + 1
  | .table entries => depthOfEntries entries + 1
  | .moment m =>
    match m.offset? with
    | none => 1
    | some 0 => 2
    | some _ => 3
  | _ => 1

/-- The greatest depth of the items of an array. -/
def depthOfItems : List Value → Nat
  | [] => 0
  | item :: rest => max item.depth (depthOfItems rest)

/-- The greatest depth of the values of a table. -/
def depthOfEntries : List (String × Value) → Nat
  | [] => 0
  | (_, value) :: rest => max value.depth (depthOfEntries rest)

end

/-- Why a value cannot be shown. -/
inductive ShowError where
  /-- A number in it is too long. -/
  | digits (e : DigitError)
  /-- Too many values lie inside each other. -/
  | tooDeep
deriving DecidableEq, Repr

/-- The wording of the reason. -/
def ShowError.message : ShowError → String
  | digits e => e.message
  | tooDeep => "maximum recursion depth exceeded while getting the repr of an object"

/-- The greatest depth of a value that is shown. -/
def depthLimit : Nat := 994

/-- The text of a value that is not too deep. -/
def Value.describe (value : Value) : Except ShowError String :=
  if depthLimit < value.depth then .error .tooDeep
  else
    match value.write with
    | .ok text => .ok text
    | .error e => .error (.digits e)

namespace Table

/-- The value of a key. -/
def get? (table : Table) (key : String) : Option Value := List.lookup key table

/-- Whether a key has a value. -/
def contains (table : Table) (key : String) : Bool := (table.get? key).isSome

/-- Gives a key a value: in place of its old one, or after all others. -/
def put (key : String) (value : Value) : Table → Table
  | [] => [(key, value)]
  | entry :: rest => if entry.1 = key then (key, value) :: rest else entry :: put key value rest

end Table

end RegisterMachine.Toml
