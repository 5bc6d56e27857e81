import RegisterMachine.Toml.Document
import RegisterMachine.Toml.Order

/-!
# Settings of a run

Three settings steer a run: whether it is verbose, whether it traces every step, and whether it
refuses a program with defects. They are kept as they were given; any value that counts as set
turns a setting on.

A settings file holds them in its table `run`, which must hold nothing else. What stands under
`run` is first searched for names that are no settings, and only then for the settings
themselves, so a text or a list in place of the table is reported by what it holds. The names are
gathered in a set, so the order in which sets are gone through is a parameter (`SetOrder`). It
decides which two names are the first that turn out to have no order.
-/

namespace RegisterMachine

open Text Toml

/-- What steers a run. -/
structure Settings where
  verbose : Value := .boolean false
  trace : Value := .boolean false
  strict : Value := .boolean false

/-- Why a file gives no settings. -/
inductive SettingsError where
  /-- It is no document. -/
  | document (text : List Char) (e : ReadError)
  /-- A number in it is too long to be shown. -/
  | digits (e : DigitError)
  /-- `run` has a value of this kind, which has no items. -/
  | notIterable (kind : String)
  /-- `run` is a list with an item of this kind, which cannot be a name. -/
  | unhashable (kind : String)
  /-- `run` holds names that have no order. -/
  | incomparable (e : OrderError)
  /-- There are names under `run` that are no settings. -/
  | unknown (names : List String)
  /-- `run` has a value of this kind, which gives names no values. -/
  | notTable (kind : String)

/-- The wording of the reason. -/
def SettingsError.message : SettingsError → String
  | document text e => e.message text
  | digits e => e.message
  | notIterable kind => "'" ++ kind ++ "' object is not iterable"
  | unhashable kind => "unhashable type: '" ++ kind ++ "'"
  | incomparable e => e.message
  | unknown names => "Unknown run settings [" ++ ", ".intercalate names ++ "]"
  | notTable kind => "'" ++ kind ++ "' object has no attribute 'get'"

namespace Settings

/-- Changes the settings for which a value is given. -/
def update (settings : Settings) (verbose? trace? strict? : Option Value) : Settings where
  verbose := verbose?.getD settings.verbose
  trace := trace?.getD settings.trace
  strict := strict?.getD settings.strict

/-- The names of the settings. -/
def names : List String := ["verbose", "trace", "strict"]

/-! ### Names under `run` -/

/-- Refuses items that are made of values, since these cannot be names. -/
def checkItems : List Value → Except SettingsError Unit
  | [] => .ok ()
  | item :: rest => if item.isCompound then .error (.unhashable item.kind) else checkItems rest

/-- What stands for names in a value: keys, characters, or the items of a list. -/
def namesIn : Value → Except SettingsError (List Value)
  | .table entries => .ok (entries.map fun entry ↦ .string entry.1)
  | .string s => .ok (s.toList.map fun c ↦ .string (String.singleton c))
  | .array items => (checkItems items).map fun _ ↦ items
  | value => .error (.notIterable value.kind)

/-- Whether a value is the name of a setting. -/
def isKnown : Value → Bool
  | .string s => names.contains s
  | _ => false

/-- The values without repetitions; of those that are the same the first stays. -/
def distinct (values : List Value) : List Value :=
  values.foldl (fun seen value ↦ if seen.any value.same then seen else seen ++ [value]) []

/-- Unknown names in ascending order, as they are shown. -/
def showUnknown (sets : SetOrder) (unknown : List Value) : Except SettingsError (List String) :=
  match inOrder (sets.arrange unknown) with
  | .error e => .error (.incomparable e)
  | .ok sorted =>
    match sorted.mapM Value.write with
    | .ok shown => .ok shown
    | .error e => .error (.digits e)

/-- Refuses a value that holds names which are no settings. -/
def checkNames (sets : SetOrder) (run : Value) : Except SettingsError Unit := do
  match distinct ((← namesIn run).filter (!isKnown ·)) with
  | [] => return ()
  | unknown => .error (.unknown (← showUnknown sets unknown))

/-- The settings that a value under `run` gives. -/
def ofRun (sets : SetOrder) (run : Value) : Except SettingsError Settings := do
  checkNames sets run
  match run with
  | .table entries =>
    let table : Table := entries
    return Settings.update {} (table.get? "verbose") (table.get? "trace") (table.get? "strict")
  | value => .error (.notTable value.kind)

/-- Reads the text of a settings file, in a room of this many steps. -/
def read (sets : SetOrder) (room : Nat) (text : List Char) : Except SettingsError Settings :=
  match readDocument room text with
  | .error e => .error (.document text e)
  | .ok document => ofRun sets ((document.get? "run").getD (.table []))

end Settings

end RegisterMachine
