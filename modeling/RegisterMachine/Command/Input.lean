import RegisterMachine.Command.Error
import RegisterMachine.File.Tree
import RegisterMachine.Log
import RegisterMachine.Text.LineBreak

/-!
# What a command reads

Texts, source lines and settings from files. Each comes with the record that announces it, which
is made before the file is touched.
-/

namespace RegisterMachine.Command

open Text Toml

/-- The text of a file. A path with the null character is not even looked for. -/
def readText (files : Files) (path : Path) : Except Error (List Char) :=
  if path.hasNull then .error .nullInPath
  else
    match files path with
    | .error e => .error (.failure (.system e))
    | .ok octets =>
      match Utf8.decode octets with
      | .error e => .error (.undecodable e)
      | .ok text => .ok text

/-- The record that announces source lines. -/
def collecting (path : Path) : Record := .debug ("Collecting file " ++ path.write)

/-- The source lines of a file. -/
def readSource (files : Files) (path : Path) : Except Error (List String) :=
  (readText files path).map fileLines

/-- The record that announces settings. -/
def loadingSettings (path : Path) : Record := .debug ("Loading settings from " ++ path.write)

/-- The room for settings that are read by themselves. -/
def settingsRoom : Nat := 994

/-- The steps that a command takes up while it reads its settings. -/
def commandSteps : Nat := 4

/-- The settings of a file, read in a room of this many steps. -/
def readSettings (sets : SetOrder) (room : Nat) (files : Files) (path : Path) :
    Except Error Settings :=
  match readText files path with
  | .error e => .error e
  | .ok text =>
    match Settings.read sets room (unifyBreaks text) with
    | .error e => .error (.settings e)
    | .ok settings => .ok settings

end RegisterMachine.Command
