import RegisterMachine.Assembly
import RegisterMachine.RegisterFile

/-!
# The machine

A machine holds a program with its labels, the registers, a program counter, its state and the
reason why it halted. What the program emits goes to a sink, which may refuse a text; what the
machine reports goes to its log. The program counter is any integer, so that it can stand outside
the program.

Programs can be loaded from source lines or put together by hand.
-/

namespace RegisterMachine

open Text

/-- Why a machine halted. -/
inductive HaltReason where
  /-- The program counter left the program. -/
  | normal
  /-- The program ran into a fault. -/
  | fault
deriving DecidableEq, Repr

/-- Whether a machine has been started and has come to its end. -/
inductive State where
  | idle
  | running
  | halted
deriving DecidableEq, Repr

namespace HaltReason

/-- The word for a reason. -/
def name : HaltReason → String
  | normal => "normal"
  | fault => "fault"

/-- The reason that a word stands for. -/
def ofName? (word : String) : Option HaltReason := [normal, fault].find? (·.name == word)

end HaltReason

/-- The word for a state. -/
def State.name : State → String
  | idle => "idle"
  | running => "running"
  | halted => "halted"

/-- The receiver of the output. It is shown every text that was ever offered to it, the newest
last, and accepts the newest unless it answers with a failure. -/
abbrev Sink := Array String → Option Failure

/-- A sink that takes everything. -/
def Sink.accepting : Sink := fun _ ↦ none

/-- A machine with its program. -/
structure Machine where
  program : Array Instruction := #[]
  labels : LabelTable := .empty
  registers : RegisterFile := .zero
  /-- The place of the instruction that is next. -/
  pc : Int := 0
  state : State := .idle
  /-- Why the machine halted. -/
  haltReason? : Option HaltReason := none
  /-- Whether the registers are reported after every step. -/
  trace : Bool := false
  sink : Sink := .accepting
  /-- Every text that was offered to the sink. -/
  offered : Array String := #[]
  /-- The texts that the sink accepted. -/
  emitted : Array String := #[]
  log : Log := #[]

namespace Machine

/-- Halts the machine. -/
def halt (m : Machine) (reason : HaltReason) : Machine :=
  { m with state := .halted, haltReason? := some reason }

/-- Adds a record to the log. -/
def note (m : Machine) (record : Record) : Machine := { m with log := m.log.push record }

/-- Offers a text to the sink. -/
def emit (m : Machine) (text : String) : Machine × Option Failure :=
  let offered := m.offered.push text
  match m.sink offered with
  | none => ({ m with offered, emitted := m.emitted.push text }, none)
  | some f => ({ m with offered }, some f)

/-! ### Programs -/

/-- Puts what was assembled in place of the program and the labels. -/
def install (m : Machine) (a : Assembly) : Machine :=
  { m with program := a.program, labels := a.labels, log := m.log ++ a.log }

/-- Replaces program and labels by what a source gives, and returns the diagnostics. -/
def load (m : Machine) (source : LineSource) : Machine × Except Failure (Array Diagnostic) :=
  match assemble source with
  | (a, none) => (m.install a, .ok a.diagnostics)
  | (a, some f) => (m.install a, .error f)

/-- Whether or not the source goes to its end, what was assembled is in place. -/
theorem fst_load (m : Machine) (source : LineSource) :
    (m.load source).1 = m.install (assemble source).1 := by
  rw [load]
  rcases assemble source with ⟨a, - | f⟩ <;> rfl

/-- Binds a label by hand. -/
def define (m : Machine) (label : String) (place : Int) : Except Failure Machine :=
  (m.labels.define label place).map fun labels ↦ { m with labels }

/-- Adds an instruction at the end of the program. Its label stays unbound. -/
def append (m : Machine) (i : Instruction) : Machine := { m with program := m.program.push i }

/-- Drops the last instruction. -/
def dropLast (m : Machine) : Except Failure Machine :=
  if m.program.isEmpty then .error .emptyProgram else .ok { m with program := m.program.pop }

/-- The program, one instruction a line. -/
def listing (m : Machine) : Except Failure String :=
  match m.program.toList.mapM Instruction.write with
  | .ok texts => .ok ("\n".intercalate texts)
  | .error e => .error (.ofWriteError e)

/-! ### Comparison and report -/

/-- The operations of the program, without labels. -/
def operations (m : Machine) : Array Operation := m.program.map (·.operation)

/-- Whether two machines have the same labels, operations, registers and program counter. -/
def alike (m n : Machine) : Bool :=
  m.labels == n.labels && m.operations == n.operations && m.registers == n.registers &&
    m.pc == n.pc

/-- The program counter and the registers in one line. -/
def dumpText (m : Machine) : Except DigitError String := do
  let pc ← writeDecimal m.pc
  let registers ← m.registers.writeEntries ":"
  return " ".intercalate (("PC:" ++ pc) :: registers)

/-- Reports the program counter and the registers. -/
def dump (m : Machine) : Machine × Option Failure :=
  match m.dumpText with
  | .ok text => (m.note (.debug text), none)
  | .error e => (m, some (.digits e))

end Machine

end RegisterMachine
