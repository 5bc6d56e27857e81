import RegisterMachine.Fault
import RegisterMachine.SystemError

/-!
# Failures

Everything that can cut an operation on a machine short. Only a fault halts the machine; any
other failure leaves it as it stood.
-/

namespace RegisterMachine

open Text

/-- Why an operation on a machine did not finish. -/
inductive Failure where
  /-- The running program is at fault. -/
  | fault (f : Fault)
  /-- A number is too long to be read or written. -/
  | digits (e : DigitError)
  /-- A label must have a name. -/
  | emptyLabel
  /-- A draft has no opcode that could be written. -/
  | noOpcode (kind : Draft)
  /-- A draft cannot be executed. -/
  | undefinedOperation (kind : Draft)
  /-- No instruction stands at the program counter. -/
  | outsideProgram
  /-- The program counter is too large for a place of any program. -/
  | outsideMemory
  /-- There is no last instruction. -/
  | emptyProgram
  /-- The user broke off. -/
  | interrupted
  /-- The system reports an error. -/
  | system (e : SystemError)
  /-- A line source or a sink raises any other error, of this kind. -/
  | raised (kind text : String)
deriving DecidableEq, Repr

namespace Failure

/-- Whether a failure halts the machine. -/
def isFault : Failure → Bool
  | fault _ => true
  | _ => false

/-- The failure behind an instruction that cannot be written. -/
def ofWriteError : WriteError → Failure
  | .digits e => .digits e
  | .noOpcode kind => .noOpcode kind

/-- The wording of a failure. -/
def message : Failure → String
  | fault f => f.message
  | digits e => e.message
  | emptyLabel => "Label must not be empty"
  | noOpcode .blank => "'Instruction' object has no attribute 'OPCODE'"
  | noOpcode (.arithmetic _ _) => "'ArithmeticInstruction' object has no attribute 'OPCODE'"
  | undefinedOperation _ => ""
  | outsideProgram => "list index out of range"
  | outsideMemory => "cannot fit 'int' into an index-sized integer"
  | emptyProgram => "pop from empty list"
  | interrupted => ""
  | system e => e.message
  | raised _ text => text

end Failure

end RegisterMachine
