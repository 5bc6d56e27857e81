import RegisterMachine.Text.Quoted
import RegisterMachine.Text.Similarity

/-!
# Arguments of a command

Arguments are read from left to right. An argument that starts with a dash is an option, unless it
is a single dash; two dashes alone end the options. A long option is spelled out and may carry its
value after an equals sign. Short options can stand together after one dash; one that takes a
value takes the rest of them, or the next argument, whatever that is. All other arguments are
positional.

What an option means is up to the command: reading gives the list of meanings in the order in
which they were asked for.
-/

namespace RegisterMachine.Command

open Text

/-- What is wrong with the arguments of a command. -/
inductive UsageError where
  /-- There is no such option; these come closest, in the order of their names. -/
  | noSuchOption (name : String) (similar : List String)
  /-- The option takes a value, and there is none. -/
  | missingValue (name : String)
  /-- The option takes no value, and there is one. -/
  | unexpectedValue (name : String)
  /-- A positional argument is missing. -/
  | missingArgument (name : String)
  /-- There are more positional arguments than the command takes. -/
  | extraArguments (arguments : List String)
deriving DecidableEq, Repr

/-- The wording of what is wrong. -/
def UsageError.message : UsageError → String
  | noSuchOption name similar =>
    let text := "No such option " ++ quoted name ++ "."
    match similar with
    | [] => text
    | [other] => text ++ " Did you mean " ++ quoted other ++ "?"
    | others => text ++ " (Did you mean one of: " ++ ", ".intercalate (others.map quoted) ++ "?)"
  | missingValue name => "Option '" ++ name ++ "' requires an argument."
  | unexpectedValue name => "Option '" ++ name ++ "' does not take a value."
  | missingArgument name => "Missing argument '" ++ name ++ "'."
  | extraArguments [argument] => "Got unexpected extra argument (" ++ argument ++ ")"
  | extraArguments arguments =>
    "Got unexpected extra arguments (" ++ " ".intercalate arguments ++ ")"

/-- What an option asks for. -/
inductive Meaning (α : Type) where
  | flag (meaning : α)
  /-- The option takes a value. -/
  | valued (meaning : String → α)

/-- An option of a command. -/
structure OptionSpec (α : Type) where
  short? : Option Char := none
  /-- The long name, with its dashes. -/
  long : String
  meaning : Meaning α

/-- An option, by the name it was called by, that still has to get its value. -/
structure Awaiting (α : Type) where
  name : String
  meaning : String → α

/-- The meanings of the options and the positional arguments, each in order. -/
structure Arguments (α : Type) where
  options : List α := []
  positional : List String := []

variable {α : Type}

/-- The three long options that are most similar to a name, in the order of their names. -/
def similarOptions (specs : List (OptionSpec α)) (name : String) : List String :=
  (closest 3 name (specs.map (·.long))).mergeSort fun a b ↦ !decide (b < a)

/-- Reads a long option, with the value after the equals sign if there is one. -/
def readLong (specs : List (OptionSpec α)) (name : String) (value? : Option String) :
    Except UsageError (List α × Option (Awaiting α)) :=
  match specs.find? (·.long == name) with
  | none => .error (.noSuchOption name (similarOptions specs name))
  | some spec =>
    match spec.meaning, value? with
    | .flag meaning, none => .ok ([meaning], none)
    | .flag _, some _ => .error (.unexpectedValue name)
    | .valued meaning, some value => .ok ([meaning value], none)
    | .valued meaning, none => .ok ([], some ⟨name, meaning⟩)

/-- Reads short options that stand together. -/
def readShort (specs : List (OptionSpec α)) :
    List Char → Except UsageError (List α × Option (Awaiting α))
  | [] => .ok ([], none)
  | c :: rest =>
    let name := String.ofList ['-', c]
    match specs.find? (·.short? == some c) with
    | none => .error (.noSuchOption name [])
    | some spec =>
      match spec.meaning with
      | .flag meaning => do
        let (meanings, awaiting?) ← readShort specs rest
        return (meaning :: meanings, awaiting?)
      | .valued meaning =>
        if rest.isEmpty then .ok ([], some ⟨name, meaning⟩)
        else .ok ([meaning (String.ofList rest)], none)

/-- Reads an argument that is an option. -/
def readOption (specs : List (OptionSpec α)) (argument : List Char) :
    Except UsageError (List α × Option (Awaiting α)) :=
  match argument with
  | '-' :: '-' :: _ =>
    let name := String.ofList (argument.takeWhile (· != '='))
    match argument.dropWhile (· != '=') with
    | [] => readLong specs name none
    | _ :: value => readLong specs name (some (String.ofList value))
  | _ => readShort specs (argument.drop 1)

/-- Whether an argument is an option: it starts with a dash and has more than that. -/
def isOption : List Char → Bool
  | '-' :: _ :: _ => true
  | _ => false

/-- Reads arguments, the first of which is the value of an option if one is awaited. -/
def readArguments (specs : List (OptionSpec α)) :
    Option (Awaiting α) → List String → Except UsageError (Arguments α)
  | none, [] => .ok {}
  | some awaiting, [] => .error (.missingValue awaiting.name)
  | some awaiting, argument :: rest => do
    let others ← readArguments specs none rest
    return { others with options := awaiting.meaning argument :: others.options }
  | none, argument :: rest =>
    if argument = "--" then .ok { positional := rest }
    else if isOption argument.toList then do
      let (meanings, awaiting?) ← readOption specs argument.toList
      let others ← readArguments specs awaiting? rest
      return { others with options := meanings ++ others.options }
    else do
      let others ← readArguments specs none rest
      return { others with positional := argument :: others.positional }

/-- The single positional argument of a command that takes one. -/
def onlyArgument (name : String) : List String → Except UsageError String
  | [] => .error (.missingArgument name)
  | [argument] => .ok argument
  | _ :: extra => .error (.extraArguments extra)

end RegisterMachine.Command
