import RegisterMachine.Failure
import RegisterMachine.Log
import RegisterMachine.Source.Line

/-!
# Assembling a program

The lines of a source are read one after another. A line with an instruction adds it to the
program, and binds its label to the place of the instruction; a blank line adds nothing; a
defective line adds a diagnostic. A later line sees the labels of the lines before it.

A source may break off: then what was assembled from the lines that arrived is still there. The
same holds when a number with too many digits stops the reading.
-/

namespace RegisterMachine

open Source Text

/-- Where source lines come from. -/
structure LineSource where
  /-- The lines that arrive. -/
  lines : List String
  /-- What breaks the source off after them, if it does not just end. -/
  failure? : Option Failure := none

/-- What has been assembled so far. -/
structure Assembly where
  program : Array Instruction := #[]
  labels : LabelTable := .empty
  diagnostics : Array Diagnostic := #[]
  log : Log := #[]

namespace Assembly

/-- Adds an instruction to the program and binds its label to the place it takes. -/
def addInstruction (a : Assembly) (i : Instruction) : Assembly :=
  match i.label? with
  | none => { a with program := a.program.push i }
  | some label =>
    { a with
      program := a.program.push i
      labels := a.labels.insert label a.program.size
      log := a.log.push (.debug ("New label " ++ label ++ " at " ++ a.program.size.repr)) }

/-- Reports a defective line. -/
def addDiagnostic (a : Assembly) (d : Diagnostic) : Assembly :=
  { a with diagnostics := a.diagnostics.push d, log := a.log.push (.warning d.message) }

/-- Takes in what the line with the given number turned out to be. -/
def addReading (a : Assembly) (number : Nat) : Reading → Assembly
  | .blank => a
  | .instruction i => a.addInstruction i
  | .defect d => a.addDiagnostic ⟨number, d⟩

/-- Reads lines, the first of which has the given number, up to a number that is too long. -/
def addLines (a : Assembly) (number : Nat) : List String → Assembly × Option DigitError
  | [] => (a, none)
  | line :: rest =>
    match readLine a.labels line with
    | .ok reading => (a.addReading number reading).addLines (number + 1) rest
    | .error e => (a, some e)

/-- Lines after lines are read with the numbers that follow, unless a number was too long. -/
theorem addLines_append (a : Assembly) (number : Nat) (first second : List String) :
    a.addLines number (first ++ second) = match a.addLines number first with
      | (b, none) => b.addLines (number + first.length) second
      | (b, some e) => (b, some e) := by
  induction first generalizing a number with
  | nil => rfl
  | cons line rest ih =>
    simp only [List.cons_append, addLines, List.length_cons]
    cases readLine a.labels line with
    | error e => rfl
    | ok reading =>
      have hlength : number + (rest.length + 1) = number + 1 + rest.length := by omega
      rw [hlength]
      exact ih (a.addReading number reading) (number + 1)

/-- Notes that all lines have been read. -/
def close (a : Assembly) : Assembly :=
  { a with log := a.log.push (.debug ("Translated " ++ a.program.size.repr ++ " instructions")) }

end Assembly

/-- Assembles the lines of a source, as far as it goes. -/
def assemble (source : LineSource) : Assembly × Option Failure :=
  match Assembly.addLines {} 1 source.lines with
  | (a, some e) => (a, some (.digits e))
  | (a, none) =>
    match source.failure? with
    | some f => (a, some f)
    | none => (a.close, none)

end RegisterMachine
