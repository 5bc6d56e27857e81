import RegisterMachine.Text.Quoted

/-!
# System errors

What the system around the machine reports when a file cannot be read or a device fails. Paths
are shown as they were asked for.
-/

namespace RegisterMachine

open Text

/-- A report of the system. -/
inductive SystemError where
  /-- Nothing has this path. -/
  | notFound (path : String)
  /-- A part of the path that has parts below it is a file. -/
  | notDirectory (path : String)
  /-- The path leads to a directory. -/
  | isDirectory (path : String)
  /-- The path, or a part of it, has too many octets. -/
  | nameTooLong (path : String)
  /-- Anything else, in the system's words. -/
  | device (message : String)
deriving DecidableEq, Repr

/-- The wording of a report. -/
def SystemError.message : SystemError → String
  | notFound path => "[Errno 2] No such file or directory: " ++ quoted path
  | notDirectory path => "[Errno 20] Not a directory: " ++ quoted path
  | isDirectory path => "[Errno 21] Is a directory: " ++ quoted path
  | nameTooLong path => "[Errno 36] File name too long: " ++ quoted path
  | device message => message

end RegisterMachine
