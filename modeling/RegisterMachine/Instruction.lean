import RegisterMachine.Register
import RegisterMachine.Text.Decimal

/-!
# Instructions

An instruction is an operation with an optional label. There are seven opcodes: four of
arithmetic, `mov`, `out` and `jnz`. An operation made by hand may also be a draft, which has no
opcode yet; it can be kept in a program but neither written nor executed.

An instruction is written as it would stand in a source line, by `Instruction.write`.
-/

namespace RegisterMachine

open Text

/-- The arithmetic operations. -/
inductive Arithmetic where
  | add
  | sub
  | mul
  | div
deriving DecidableEq, Repr

/-- What the first word of an operation can be. -/
inductive Opcode where
  | arithmetic (op : Arithmetic)
  | mov
  | out
  | jnz
deriving DecidableEq, Repr

/-- The word for an arithmetic operation. -/
def Arithmetic.mnemonic : Arithmetic → String
  | add => "add"
  | sub => "sub"
  | mul => "mul"
  | div => "div"

namespace Opcode

/-- The opcodes in their order. -/
def all : List Opcode :=
  [arithmetic .add, arithmetic .sub, arithmetic .mul, arithmetic .div, mov, out, jnz]

/-- The word for an opcode. -/
def mnemonic : Opcode → String
  | arithmetic op => op.mnemonic
  | mov => "mov"
  | out => "out"
  | jnz => "jnz"

/-- The opcode that a word stands for. -/
def ofMnemonic? (word : String) : Option Opcode := all.find? (·.mnemonic == word)

theorem mem_all (op : Opcode) : op ∈ all := by
  rcases op with op | _ | _ | _
  · cases op <;> decide
  all_goals decide

@[simp] theorem ofMnemonic?_mnemonic (op : Opcode) : ofMnemonic? op.mnemonic = some op := by
  rcases op with op | _ | _ | _
  · cases op <;> decide
  all_goals decide

/-- A word stands for an opcode only if it is the word for it. -/
theorem ofMnemonic?_eq_some_iff {word : String} {op : Opcode} :
    ofMnemonic? word = some op ↔ word = op.mnemonic := by
  refine ⟨fun h ↦ ?_, fun h ↦ h ▸ ofMnemonic?_mnemonic op⟩
  have := List.find?_some h
  exact (eq_of_beq this).symm

end Opcode

/-- An operation whose opcode is still open: either nothing is settled, or that it is arithmetic
on two registers. -/
inductive Draft where
  | blank
  | arithmetic (result source : Register)
deriving DecidableEq, Repr

/-- What an instruction does. -/
inductive Operation where
  /-- The result register takes the outcome on the old values of both registers. -/
  | arithmetic (op : Arithmetic) (result source : Register)
  /-- The register takes a value. -/
  | mov (result : Register) (value : Int)
  /-- The value of the register is emitted. -/
  | out (source : Register)
  /-- If the register is not zero, the program goes on at the label. -/
  | jnz (source : Register) (target : String)
  /-- Nothing that can be executed. -/
  | draft (kind : Draft)
deriving DecidableEq, Repr

/-- An operation at a place that may carry a label. -/
structure Instruction where
  label? : Option String := none
  operation : Operation
deriving DecidableEq, Repr

/-- Why an instruction cannot be written. -/
inductive WriteError where
  /-- A value is too long. -/
  | digits (e : DigitError)
  /-- The operation has no opcode. -/
  | noOpcode (kind : Draft)
deriving DecidableEq, Repr

namespace Operation

/-- The opcode of an operation. -/
def opcode? : Operation → Option Opcode
  | arithmetic op _ _ => some (.arithmetic op)
  | mov _ _ => some .mov
  | out _ => some .out
  | jnz _ _ => some .jnz
  | draft _ => none

/-- The opcode and the operands, with a space between two of them. -/
def write : Operation → Except WriteError String
  | arithmetic op result source => .ok (op.mnemonic ++ " " ++ result.name ++ " " ++ source.name)
  | mov result value =>
    match writeDecimal value with
    | .ok text => .ok ("mov " ++ result.name ++ " " ++ text)
    | .error e => .error (.digits e)
  | out source => .ok ("out " ++ source.name)
  | jnz source target => .ok ("jnz " ++ source.name ++ " " ++ target)
  | draft kind => .error (.noOpcode kind)

end Operation

namespace Instruction

/-- The label with a colon, if there is one, and the operation. -/
def write (i : Instruction) : Except WriteError String :=
  i.operation.write.map fun text ↦
    match i.label? with
    | none => text
    | some label => label ++ ": " ++ text

/-- Whether two instructions do the same, whatever their labels. -/
def alike (i j : Instruction) : Bool := i.operation == j.operation

theorem alike_iff {i j : Instruction} : i.alike j ↔ i.operation = j.operation := by
  simp [alike]

end Instruction

end RegisterMachine
