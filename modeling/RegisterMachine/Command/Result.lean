import RegisterMachine.Command.Arguments
import RegisterMachine.Command.Error
import RegisterMachine.Log
import RegisterMachine.Text.ControlSequence

/-!
# What a command leaves behind

A command ends with an exit code, and has written lines to its output and to its error output. On
the error output stand log records, at or above the threshold that was in force when they were
made, and messages of the command itself. What a message quotes from a source may hold control
sequences. **The error output is taken to be a file or a pipe, and no terminal**: there the control
sequences in a message are left out, while log records are written as they are. On a terminal they
would stay in both.
-/

namespace RegisterMachine.Command

/-- How a command ends. -/
inductive Exit where
  /-- The work is done. -/
  | done
  /-- The source has defects. -/
  | defective
  /-- The program ran into a fault. -/
  | fault
  /-- The user broke off. -/
  | interrupted
  /-- Anything else kept the command from its work. -/
  | broken
  /-- The arguments cannot be read. -/
  | usage
  /-- An error left the command. -/
  | escaped
deriving DecidableEq, Repr

/-- The code that the system is given. -/
def Exit.code : Exit → Nat
  | done => 0
  | defective => 1
  | fault => 2
  | interrupted => 3
  | broken => 100
  | usage => 2
  | escaped => 1

/-- A line on the error output. -/
inductive ErrorLine where
  | record (r : Record)
  | message (text : String)
deriving DecidableEq, Repr

/-- A line on the error output as it is written, where that is no terminal. -/
def ErrorLine.write : ErrorLine → String
  | record r => r.level.name ++ ":root:" ++ r.message
  | message text => Text.withoutControls text

/-- An error that leaves a command. -/
inductive Escape where
  | usage (e : UsageError)
  | error (e : Error)

/-- The wording of an error that leaves a command. -/
def Escape.message : Escape → String
  | usage e => e.message
  | error e => e.message

/-- What a command leaves behind. -/
structure Result where
  exit : Exit
  output : Array String := #[]
  errors : Array ErrorLine := #[]
  /-- The threshold for log records at the end. -/
  threshold : Level := .warning
  escape? : Option Escape := none

/-- The records at the threshold or above it, as lines on the error output. -/
def shown (threshold : Level) (log : Log) : Array ErrorLine :=
  (log.atLeast threshold).map .record

/-- The end of a command whose arguments cannot be read. -/
def Result.ofUsageError (e : UsageError) : Result :=
  { exit := .usage, escape? := some (.usage e) }

/-- The end of a command that an error in the value of an option keeps from starting. -/
def Result.ofOptionError (e : Error) : Result :=
  { exit := .escaped, escape? := some (.error e) }

/-- The end of a command that only explains itself. -/
def Result.ofHelp (lines : Array String) : Result := { exit := .done, output := lines }

/-- Lines as they are written, each with its end. -/
def joinLines (lines : Array String) : String := String.join (lines.toList.map (· ++ "\n"))

/-- The text on the output. -/
def Result.outputText (r : Result) : String := joinLines r.output

/-- The text on the error output. -/
def Result.errorText (r : Result) : String := joinLines (r.errors.map (·.write))

/-- The threshold that the verbose flag sets. -/
def thresholdFor (verbose : Bool) : Level := if verbose then .debug else .info

end RegisterMachine.Command
