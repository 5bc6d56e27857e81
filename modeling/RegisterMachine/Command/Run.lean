import RegisterMachine.Command.Execution
import RegisterMachine.Command.Input
import RegisterMachine.Command.Result

/-!
# The command that runs a program

The settings come from a file, if one is named, and from the options, which win. They decide the
threshold for log records from then on; before that the option alone decides. However the program
ends, the command tells it and ends with the exit code for it; no error leaves the command once
its arguments have been read. The path of the settings file is looked at with the options, before
the other arguments are counted, so a path that can name nothing leaves the command at once.
-/

namespace RegisterMachine.Command.Run

open Toml

/-- What the options of the command mean. -/
inductive Choice where
  | verbose
  | config (path : String)
  | trace (on : Bool)
  | strict (on : Bool)
  | help
deriving DecidableEq, Repr

/-- The options of the command. -/
def specs : List (OptionSpec Choice) :=
  [⟨some 'v', "--verbose", .flag .verbose⟩,
    ⟨some 'c', "--config", .valued .config⟩,
    ⟨none, "--trace", .flag (.trace true)⟩,
    ⟨none, "--no-trace", .flag (.trace false)⟩,
    ⟨none, "--strict", .flag (.strict true)⟩,
    ⟨none, "--no-strict", .flag (.strict false)⟩,
    ⟨none, "--help", .flag .help⟩]

/-- What the command says about itself. -/
def helpLines : Array String :=
  #["Usage: run [OPTIONS] PROGRAM",
    "",
    "Options:",
    "  -v, --verbose           Sets logging level to debug",
    "  -c, --config PATH       TOML run settings",
    "  --trace / --no-trace    Dump registers after every step",
    "  --strict / --no-strict  Refuse to run a program with errors",
    "  --help                  Show this message and exit."]

/-- What the command is asked to do. -/
structure Order where
  verbose : Bool := false
  config? : Option Path := none
  trace? : Option Bool := none
  strict? : Option Bool := none
  program : Path

/-- Takes in one more option; a later one wins. -/
def Order.add (order : Order) : Choice → Order
  | .verbose => { order with verbose := true }
  | .config path => { order with config? := some (.ofString path) }
  | .trace on => { order with trace? := some on }
  | .strict on => { order with strict? := some on }
  | .help => order

/-- The settings file that options name; a later one wins. -/
def configPath? (options : List Choice) : Option Path :=
  (options.filterMap fun choice ↦ match choice with
    | .config path => some (Path.ofString path)
    | _ => none).getLast?

/-- The order that arguments give. -/
def Order.ofArguments (arguments : Arguments Choice) : Except UsageError Order := do
  let program ← onlyArgument "PROGRAM" arguments.positional
  return arguments.options.foldl Order.add { program := .ofString program }

/-- The files that an order reads. -/
def Order.paths (order : Order) : List Path := order.config?.toList ++ [order.program]

/-- The settings of the options over those of a file. -/
def Order.apply (order : Order) (settings : Settings) : Settings :=
  settings.update (if order.verbose then some (.boolean true) else none)
    (order.trace?.map .boolean) (order.strict?.map .boolean)

/-- The last records of a run that an error cut short, and the exit code. -/
def closing (program : Path) : Error → Log × Exit
  | .rejected diagnostics =>
    let refused : Record := .info ("Execution refused: " ++ (Error.rejected diagnostics).message)
    ((diagnostics.map fun d ↦ Record.error d.message).push refused, .defective)
  | .failure (.fault f) => (#[.info ("Execution halted on fault: " ++ f.message)], .fault)
  | .failure .interrupted => (#[.info "Execution halted by the user"], .interrupted)
  | .failure (.system e) =>
    (#[.error ("Error reading the program from " ++ program.write ++ ": " ++ e.message)], .broken)
  | e => (#[.info ("Execution halted on general error " ++ e.message)], .broken)

/-- The end of a run that an error cut short. -/
def finishWith (order : Order) (threshold : Level) (output : Array String)
    (errors : Array ErrorLine) (e : Error) : Result :=
  let (records, exit) := closing order.program e
  { exit, output, errors := errors ++ shown threshold records, threshold }

/-- The source with an interrupt of the user after some lines, if there is one. -/
def interruptedSource (interrupt? : Option Nat) (lines : List String) : LineSource :=
  match interrupt? with
  | none => ⟨lines, none⟩
  | some count => ⟨lines.take count, some .interrupted⟩

/-- Runs the program of an order under settings. `errors` are the lines written before. -/
def runProgram (rounds : Nat) (files : Files) (interrupt? : Option Nat) (order : Order)
    (settings : Settings) (errors : Array ErrorLine) : Option Result :=
  let threshold := thresholdFor settings.verbose.isSet
  let errors := errors ++ shown threshold #[.info "SML", collecting order.program]
  match readSource files order.program with
  | .error e => some (finishWith order threshold #[] errors e)
  | .ok lines =>
    let execution := execute rounds settings .accepting (interruptedSource interrupt? lines)
    let output := execution.machine.emitted
    let errors := errors ++ shown threshold execution.machine.log
    match execution.outcome with
    | .unfinished => none
    | .failed e => some (finishWith order threshold output errors e)
    | .finished =>
      let last : Log := #[.info "Execution halted gracefully"]
      some { exit := .done, output, errors := errors ++ shown threshold last, threshold }

/-- Carries out an order, or answers `none` if the program still runs after the rounds. -/
def carryOut (sets : SetOrder) (rounds : Nat) (files : Files) (interrupt? : Option Nat)
    (order : Order) : Option Result :=
  match order.config? with
  | none => runProgram rounds files interrupt? order (order.apply {}) #[]
  | some path =>
    let threshold := thresholdFor order.verbose
    let errors := shown threshold #[loadingSettings path]
    match readSettings sets (settingsRoom - commandSteps) files path with
    | .error e => some (finishWith order threshold #[] errors e)
    | .ok settings => runProgram rounds files interrupt? order (order.apply settings) errors

/-- What the arguments of the command ask for: an order, or an answer that needs no file. -/
def readOrder (arguments : List String) : Except Result Order :=
  match readArguments specs none arguments with
  | .error e => .error (.ofUsageError e)
  | .ok arguments =>
    if arguments.options.contains .help then .error (.ofHelp helpLines)
    else if (configPath? arguments.options).any (·.hasNull) then .error (.ofOptionError .nullInPath)
    else
      match Order.ofArguments arguments with
      | .error e => .error (.ofUsageError e)
      | .ok order => .ok order

/-- The command on its arguments, or `none` if the program still runs after the rounds. Its sets are
gone through in the given order. -/
def command (sets : SetOrder) (rounds : Nat) (files : Files) (interrupt? : Option Nat)
    (arguments : List String) : Option Result :=
  match readOrder arguments with
  | .error result => some result
  | .ok order => carryOut sets rounds files interrupt? order

end RegisterMachine.Command.Run
