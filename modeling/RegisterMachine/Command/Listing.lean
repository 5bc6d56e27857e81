import RegisterMachine.Assembly
import RegisterMachine.Command.Input
import RegisterMachine.Command.Result

/-!
# The command that lists a program

The source is assembled, and the program and its labels are listed. Defects go to the error
output, and there is an exit code for them. An error leaves the command.
-/

namespace RegisterMachine.Command.Listing

open Text

/-- What the options of the command mean. -/
inductive Choice where
  | verbose
  | help
deriving DecidableEq, Repr

/-- The options of the command. -/
def specs : List (OptionSpec Choice) :=
  [⟨some 'v', "--verbose", .flag .verbose⟩, ⟨none, "--help", .flag .help⟩]

/-- What the command says about itself. -/
def helpLines : Array String :=
  #["Usage: translate [OPTIONS] SOURCE",
    "",
    "  Translates SOURCE and prints the normalized listing",
    "",
    "Options:",
    "  -v, --verbose  Sets logging level to debug",
    "  --help         Show this message and exit."]

/-- What the command is asked to do. -/
structure Order where
  verbose : Bool
  source : Path

/-- Assembles the source lines of a file. The log starts with the record that announces them. -/
def assembleFile (files : Files) (path : Path) : Assembly × Option Error :=
  let announced : Log := #[collecting path]
  match readSource files path with
  | .error e => ({ log := announced }, some e)
  | .ok lines =>
    match assemble ⟨lines, none⟩ with
    | (a, none) => ({ a with log := announced ++ a.log }, none)
    | (a, some f) => ({ a with log := announced ++ a.log }, some (.failure f))

/-- A number on the right of four columns, or of as many as it needs. -/
def indexColumn (n : Nat) : String := "".pushn ' ' (4 - n.repr.length) ++ n.repr

/-- The instructions with their places, one a line. -/
def instructionLines (program : Array Instruction) : Except Error (List String) :=
  program.toList.zipIdx.mapM fun (i, n) ↦
    match i.write with
    | .ok text => .ok (indexColumn n ++ " " ++ text)
    | .error e => .error (.failure (.ofWriteError e))

/-- The line that shows the labels. -/
def labelLine (labels : LabelTable) : Except Error String :=
  match labels.write with
  | .ok text => .ok ("Labels: " ++ text)
  | .error e => .error (.failure (.digits e))

/-- The lines of the listing. -/
def listingLines (a : Assembly) : Except Error (List String) := do
  return (← instructionLines a.program) ++ [← labelLine a.labels]

/-- Carries out an order. -/
def list (files : Files) (order : Order) : Result :=
  let threshold := thresholdFor order.verbose
  let (a, error?) := assembleFile files order.source
  let errors := shown threshold (#[.info "SML ASM"] ++ a.log)
  let listed : Except Error (List String) := match error? with
    | some e => .error e
    | none => listingLines a
  match listed with
  | .error e => { exit := .escaped, errors, threshold, escape? := some (.error e) }
  | .ok lines =>
    { exit := if a.diagnostics.isEmpty then .done else .defective
      output := lines.toArray
      errors := errors ++ a.diagnostics.map fun d ↦ .message d.message
      threshold }

/-- What the arguments of the command ask for: an order, or an answer that needs no file. -/
def readOrder (arguments : List String) : Except Result Order :=
  match readArguments specs none arguments with
  | .error e => .error (.ofUsageError e)
  | .ok arguments =>
    if arguments.options.contains .help then .error (.ofHelp helpLines)
    else
      match onlyArgument "SOURCE" arguments.positional with
      | .error e => .error (.ofUsageError e)
      | .ok source => .ok ⟨arguments.options.contains .verbose, .ofString source⟩

/-- The command on its arguments. -/
def command (files : Files) (arguments : List String) : Result :=
  match readOrder arguments with
  | .error result => result
  | .ok order => list files order

end RegisterMachine.Command.Listing
