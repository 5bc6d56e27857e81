import RegisterMachine.File.Path
import RegisterMachine.SystemError

/-!
# Trees of files

A tree holds files by their places, and the directories that these need. Reading a path walks
from part to part; it ends at the first part that is missing, that is too long for a name, or that
is a file with parts below it. A path that is too long as a whole is not walked at all. What lies
around the tree is not known: one can step out of it, but finds nothing there.
-/

namespace RegisterMachine

/-- How the contents of files are found. -/
abbrev Files := Path → Except SystemError (List UInt8)

/-- Files and directories by their places below a root. -/
structure FileTree where
  files : List (List String × List UInt8) := []
  directories : List (List String) := []
deriving DecidableEq, Repr

namespace FileTree

/-- Where a walk has come to. -/
inductive Location where
  /-- A directory of the tree. -/
  | inside (place : List String)
  /-- A directory around the tree. -/
  | outside
deriving DecidableEq, Repr

/-- Whether a place is a directory: the root, one that is listed, or one with something below. -/
def isDirectory (tree : FileTree) (place : List String) : Bool :=
  place.isEmpty || (tree.directories ++ tree.files.map (·.1)).any fun other ↦
    place.isPrefixOf other && (place != other || tree.directories.contains other)

/-- The greatest number of octets of a part. -/
def partLimit : Nat := 255

/-- The greatest number of octets of a path. -/
def pathLimit : Nat := 4095

/-- The error at a part that leads nowhere. -/
def missing (path part : String) : SystemError :=
  if partLimit < part.utf8ByteSize then .nameTooLong path else .notFound path

/-- Walks from a location along the parts of a path; `path` is what is reported. -/
def walk (tree : FileTree) (path : String) :
    Location → List String → Except SystemError (List UInt8)
  | _, [] => .error (.isDirectory path)
  | .outside, ".." :: rest => tree.walk path .outside rest
  | .outside, part :: _ => .error (missing path part)
  | .inside [], ".." :: rest => tree.walk path .outside rest
  | .inside place, ".." :: rest => tree.walk path (.inside place.dropLast) rest
  | .inside place, part :: rest =>
    let next := place ++ [part]
    match tree.files.lookup next with
    | some octets => if rest.isEmpty then .ok octets else .error (.notDirectory path)
    | none =>
      if tree.isDirectory next then tree.walk path (.inside next) rest
      else .error (missing path part)

/-- Reads the file at a path. -/
def read (tree : FileTree) : Files := fun path ↦
  let text := path.write
  if pathLimit < text.utf8ByteSize then .error (.nameTooLong text)
  else tree.walk text (if path.isAbsolute then .outside else .inside []) path.parts

end FileTree

end RegisterMachine
