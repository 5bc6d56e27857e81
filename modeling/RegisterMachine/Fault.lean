import RegisterMachine.Instruction

/-!
# Faults

A fault is an error of the running program. It halts the machine.
-/

namespace RegisterMachine

open Text

/-- What can be wrong with a running program. -/
inductive Fault where
  /-- A jump is taken to a label that is not bound. -/
  | labelNotFound (label : String)
  /-- An arithmetic operation has no outcome on these values of its registers. -/
  | arithmetic (op : Arithmetic) (operands : List (Register × Int))
  /-- The receiver of the output reports a fault. -/
  | output (message : String)
deriving DecidableEq, Repr

/-- The wording of a fault. -/
def Fault.message : Fault → String
  | labelNotFound label => "Label not found: " ++ label
  | arithmetic op operands =>
    let values := operands.map fun (r, value) ↦ r.name ++ "=" ++ decimal value
    "Arithmetic fault in " ++ op.mnemonic ++ " (" ++ " ".intercalate values ++ ")"
  | output message => message

end RegisterMachine
