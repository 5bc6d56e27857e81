import RegisterMachine.Command.Listing
import RegisterMachine.Command.Run

/-!
# The program

The first argument chooses between the two commands: `sml` runs a program and `smlasm` lists one.
The files that the command asks for are read before it starts, and what it leaves behind is
written when it has ended.
-/

namespace RegisterMachine

/-- What the system says about a path that cannot be read. -/
def systemErrorOf (path : String) : IO.Error → SystemError
  | .noFileOrDirectory .. => .notFound path
  | .inappropriateType _ code _ => if code = 20 then .notDirectory path else .isDirectory path
  | .invalidArgument _ 36 _ => .nameTooLong path
  | e => .device e.toString

/-- Reads the files at the paths. -/
def snapshot (paths : List Path) : IO Files := do
  let mut contents : List (Path × Except SystemError (List UInt8)) := []
  for path in paths do
    let content ← try
        let octets ← IO.FS.readBinFile path.write
        pure (.ok octets.toList)
      catch e => pure (.error (systemErrorOf path.write e))
    contents := (path, content) :: contents
  return fun path ↦ (contents.lookup path).getD (.error (.notFound path.write))

/-- Writes what a command leaves behind, and gives its exit code. -/
def finish (result : Command.Result) : IO UInt32 := do
  (← IO.getStdout).putStr result.outputText
  let errors ← IO.getStderr
  errors.putStr result.errorText
  if let some escape := result.escape? then
    errors.putStrLn ("Error: " ++ escape.message)
  return result.exit.code.toUInt32

/-- More rounds than anyone waits for. -/
def patience : Nat := 1000000000000000000

/-- Runs a program. -/
def runMain (arguments : List String) : IO UInt32 := do
  match Command.Run.readOrder arguments with
  | .error result => finish result
  | .ok order =>
    match Command.Run.carryOut .textsLast patience (← snapshot order.paths) none order with
    | some result => finish result
    | none => return Command.Exit.broken.code.toUInt32

/-- Lists a program. -/
def listMain (arguments : List String) : IO UInt32 := do
  match Command.Listing.readOrder arguments with
  | .error result => finish result
  | .ok order => finish (Command.Listing.list (← snapshot [order.source]) order)

end RegisterMachine

/-- Chooses the command. -/
def main (arguments : List String) : IO UInt32 := do
  match arguments with
  | "sml" :: rest => RegisterMachine.runMain rest
  | "smlasm" :: rest => RegisterMachine.listMain rest
  | _ =>
    (← IO.getStderr).putStrLn "Usage: sml [OPTIONS] PROGRAM | smlasm [OPTIONS] SOURCE"
    return RegisterMachine.Command.Exit.usage.code.toUInt32
