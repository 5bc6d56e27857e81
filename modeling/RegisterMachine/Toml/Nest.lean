import RegisterMachine.Toml.Problem
import RegisterMachine.Toml.Value

/-!
# Tables inside tables

A dotted key leads from table to table. Tables on the way that are missing are made; an array of
tables stands for its last table. On the way there may be a value that is no table.
-/

namespace RegisterMachine.Toml

/-- Why nothing can be put at a key. -/
inductive NestError where
  /-- A value on the way is no table. -/
  | noTable
  /-- The key has a value. -/
  | occupied
deriving DecidableEq, Repr

/-- Changes the table at the end of a key, and with it the tables on the way. Arrays of tables are
passed only if `throughArrays` is set. -/
def changeAt (throughArrays : Bool) (change : Table → Except NestError Table) :
    Key → Table → Except NestError Table
  | [], table => change table
  | part :: rest, table =>
    match table.get? part with
    | none => do
      let inner ← changeAt throughArrays change rest []
      return table.put part (.table inner)
    | some (.table inner) => do
      let inner ← changeAt throughArrays change rest inner
      return table.put part (.table inner)
    | some (.array items) =>
      match throughArrays, items.getLast? with
      | true, some (.table inner) => do
        let inner ← changeAt throughArrays change rest inner
        return table.put part (.array (items.dropLast ++ [.table inner]))
      | _, _ => .error .noTable
    | some _ => .error .noTable

/-- Puts a value at a key that has none. -/
def insertAt (throughArrays : Bool) (parent : Key) (name : String) (value : Value)
    (table : Table) : Except NestError Table :=
  changeAt throughArrays (fun t ↦
    if t.contains name then .error .occupied else .ok (t.put name value)) parent table

/-- Makes sure that there is a table at a key. -/
def openTable (key : Key) (table : Table) : Except NestError Table := changeAt true .ok key table

/-- Adds an empty table to the array of tables at a key. -/
def openTableArray (parent : Key) (name : String) (table : Table) : Except NestError Table :=
  changeAt true (fun t ↦
    match t.get? name with
    | none => .ok (t.put name (.array [.table []]))
    | some (.array items) => .ok (t.put name (.array (items ++ [.table []])))
    | some _ => .error .occupied) parent table

end RegisterMachine.Toml
