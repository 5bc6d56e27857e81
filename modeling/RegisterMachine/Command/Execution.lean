import RegisterMachine.Command.Error
import RegisterMachine.Machine.Run

/-!
# Executing source lines

A fresh machine loads the lines of a source and runs them. Its log tells the stages. A program
with defects is refused if the settings ask for it; otherwise it runs without the defective
lines.
-/

namespace RegisterMachine.Command

/-- How far an execution has come. -/
inductive Outcome where
  /-- The program has come to its end. -/
  | finished
  /-- The rounds are used up, and the program still runs. -/
  | unfinished
  /-- Something cut it short. -/
  | failed (e : Error)

/-- The machine after an execution, and how far it came. -/
structure Execution where
  machine : Machine
  outcome : Outcome

namespace Execution

/-- An execution cut short by a failure. -/
def failure (m : Machine) (f : Failure) : Execution := ⟨m, .failed (.failure f)⟩

/-- Tells the values of the registers after the last step. -/
def report (m : Machine) : Execution :=
  let m := m.note (.info "Ending program execution.")
  match m.registers.write with
  | .error e => failure m (.digits e)
  | .ok text =>
    ⟨m.note (.info ("Values of registers at program termination: " ++ text ++ ".")), .finished⟩

/-- Runs a loaded machine. -/
def run (rounds : Nat) (m : Machine) : Execution :=
  match (m.note (.info "Beginning program execution.")).execute rounds with
  | .running m => ⟨m, .unfinished⟩
  | .ended m (some f) => failure m f
  | .ended m none => report m

/-- Tells how many instructions and which labels were loaded. -/
def announce (m : Machine) : Machine × Option Failure :=
  let size := m.program.size.repr
  let m := m.note (.info ("Here is the program; it has " ++ size ++ " instructions."))
  match m.labels.write with
  | .ok labels => (m.note (.debug ("Labels: " ++ labels)), none)
  | .error e => (m, some (.digits e))

end Execution

/-- Loads the lines of a source into a fresh machine and runs them. -/
def execute (rounds : Nat) (settings : Settings) (sink : Sink) (source : LineSource) :
    Execution :=
  let fresh : Machine := { trace := settings.trace.isSet, sink }
  match fresh.load source with
  | (m, .error f) => Execution.failure m f
  | (m, .ok diagnostics) =>
    match Execution.announce m with
    | (m, some f) => Execution.failure m f
    | (m, none) =>
      if !diagnostics.isEmpty && settings.strict.isSet then ⟨m, .failed (.rejected diagnostics)⟩
      else Execution.run rounds m

end RegisterMachine.Command
