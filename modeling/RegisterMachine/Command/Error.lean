import RegisterMachine.Diagnostic
import RegisterMachine.Failure
import RegisterMachine.Settings
import RegisterMachine.Text.Utf8

/-!
# What keeps a command from its work
-/

namespace RegisterMachine.Command

open Text

/-- Why a command did not do its work. -/
inductive Error where
  /-- An operation on the machine, or on the system around it, failed. -/
  | failure (f : Failure)
  /-- A path holds the null character. -/
  | nullInPath
  /-- A file is no text. -/
  | undecodable (e : Utf8.DecodeError)
  /-- A file gives no settings. -/
  | settings (e : SettingsError)
  /-- The program has defects, and the settings ask to refuse it then. -/
  | rejected (diagnostics : Array Diagnostic)

/-- The wording of the reason. -/
def Error.message : Error → String
  | failure f => f.message
  | nullInPath => "embedded null byte"
  | undecodable e => e.message
  | settings e => e.message
  | rejected diagnostics => "Program rejected with " ++ diagnostics.size.repr ++ " errors"

end RegisterMachine.Command
