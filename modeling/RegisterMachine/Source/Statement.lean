import RegisterMachine.Source.Scan

/-!
# Statements

A statement is an optional label and an operation. Which operation is asked for is known
beforehand; the scanner then looks for its word and its operands.
-/

namespace RegisterMachine.Source

/-- A label, if there is one, and an operation. -/
structure Statement where
  label? : Option String
  operation : Operation
deriving DecidableEq, Repr

/-- The instruction that a statement stands for. -/
def Statement.instruction (s : Statement) : Instruction := ⟨s.label?, s.operation⟩

/-- The operands that belong to an opcode. -/
def scanOperands : Opcode → Scanner Operation
  | .arithmetic op, text => do
    let (result, text) ← scanRegister text
    let (source, text) ← scanRegister text
    return (.arithmetic op result source, text)
  | .mov, text => do
    let (result, text) ← scanRegister text
    let (value, text) ← scanInteger text
    return (.mov result value, text)
  | .out, text => do
    let (source, text) ← scanRegister text
    return (.out source, text)
  | .jnz, text => do
    let (source, text) ← scanRegister text
    let (target, text) ← scanIdentifier .labelReference text
    return (.jnz source target, text)

/-- The word for an opcode and its operands. -/
def scanOperation (op : Opcode) : Scanner Operation := fun text ↦ do
  let (_, text) ← scanKeyword op text
  scanOperands op text

/-- A label, or nothing where none stands. -/
def scanOptionalLabel (text : List Char) : Option String × List Char :=
  match scanLabel text with
  | .ok (label, rest) => (some label, rest)
  | .error _ => (none, text)

/-- A statement with the given opcode at the front of a text. -/
def scanStatement (op : Opcode) : Scanner Statement := fun text ↦ do
  let (label?, text) := scanOptionalLabel text
  let (operation, text) ← scanOperation op text
  return (⟨label?, operation⟩, text)

/-- A statement with the given opcode that is the whole text. -/
def readStatement (op : Opcode) (text : List Char) : Except ScanError Statement := do
  let (statement, text) ← scanStatement op text
  let _ ← scanEnd text
  return statement

end RegisterMachine.Source
