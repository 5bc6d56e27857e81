import RegisterMachine.Machine.Basic

/-!
# One step of a machine

The instruction at the program counter is applied, and the program counter moves on to the next
instruction or to the target of a jump. A failing instruction leaves the registers and the
program counter as they were. A trace is written after the program counter has moved.
-/

namespace RegisterMachine

open Text

/-- Where the program goes on. -/
inductive Transfer where
  /-- At the next instruction. -/
  | advance
  /-- At the given place. -/
  | jump (place : Int)
deriving DecidableEq, Repr

/-- The failure of an arithmetic operation without an outcome. It shows the operands, so they
must not be too long. -/
def arithmeticFailure (op : Arithmetic) (operands : List (Register × Int)) : Failure :=
  if operands.all fun (_, value) ↦ value.natAbs < digitBound then .fault (.arithmetic op operands)
  else .digits .writing

/-- The quotient of two integers, truncated toward zero. A division rounds down, so it is made on
the magnitudes, and the sign is put on afterwards. -/
def quotient (a b : Int) : Int :=
  let magnitude := (a.natAbs : Int).fdiv b.natAbs
  if decide (a < 0) != decide (b < 0) then -magnitude else magnitude

/-- The outcome of an arithmetic operation on the values of its two registers. -/
def Arithmetic.compute (op : Arithmetic) (result source : Register) (a b : Int) :
    Except Failure Int :=
  match op with
  | add => .ok (a + b)
  | sub => .ok (a - b)
  | mul => .ok (a * b)
  | div =>
    if b = 0 then
      .error (arithmeticFailure .div
        (if result = source then [(result, b)] else [(result, a), (source, b)]))
    else .ok (quotient a b)

/-- Applies an operation to a machine, up to the move of the program counter. -/
def Operation.apply (m : Machine) : Operation → Machine × Except Failure Transfer
  | arithmetic op result source =>
    match op.compute result source (m.registers.get result) (m.registers.get source) with
    | .ok value => ({ m with registers := m.registers.set result value }, .ok .advance)
    | .error f => (m, .error f)
  | mov result value => ({ m with registers := m.registers.set result value }, .ok .advance)
  | out source =>
    match writeDecimal (m.registers.get source) with
    | .error e => (m, .error (.digits e))
    | .ok text =>
      match m.emit text with
      | (m, none) => (m, .ok .advance)
      | (m, some f) => (m, .error f)
  | jnz source target =>
    if m.registers.get source = 0 then (m, .ok .advance)
    else
      (m, (m.labels.resolve target).map .jump)
  | draft kind => (m, .error (.undefinedOperation kind))

namespace Machine

/-- Whether the program counter stands at an instruction. -/
def isInside (m : Machine) : Bool := 0 ≤ m.pc && m.pc < m.program.size

/-- The instruction at the program counter. A negative program counter counts from the end of
the program. -/
def fetch? (m : Machine) : Option Instruction :=
  let place := if m.pc < 0 then m.pc + m.program.size else m.pc
  if 0 ≤ place then m.program[place.toNat]? else none

/-- Whether the program counter could be the place of an instruction in some program: it fits in
a signed word of 64 bits. -/
def isAddress (m : Machine) : Bool :=
  -0x8000000000000000 ≤ m.pc && m.pc < 0x8000000000000000

/-- The failure of a program counter that stands at no instruction. -/
def fetchFailure (m : Machine) : Failure := if m.isAddress then .outsideProgram else .outsideMemory

/-- Moves the program counter. -/
def follow (m : Machine) : Transfer → Machine
  | .advance => { m with pc := m.pc + 1 }
  | .jump place => { m with pc := place }

/-- Writes the trace, if one is wanted. -/
def traced (m : Machine) : Machine × Option Failure := if m.trace then m.dump else (m, none)

/-- Executes the instruction at the program counter. -/
def step (m : Machine) : Machine × Option Failure :=
  match m.fetch? with
  | none => (m, some m.fetchFailure)
  | some i =>
    match i.operation.apply m with
    | (m, .ok transfer) => (m.follow transfer).traced
    | (m, .error f) => (m, some f)

end Machine

end RegisterMachine
