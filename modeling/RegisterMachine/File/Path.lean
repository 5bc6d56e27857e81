/-!
# Paths

A path is a list of parts, with a root in front if it does not start where one stands. Empty parts
and parts that are a single dot say nothing and are left out; two dots stay, since what they lead
to depends on the files. A path without root and parts is the directory one stands in.
-/

namespace RegisterMachine

/-- A path to a file or directory. -/
structure Path where
  /-- The slashes at the front: exactly two stay two, and any other number is one. -/
  root : String := ""
  parts : List String
deriving DecidableEq, Repr

namespace Path

/-- Cuts a text at every slash. -/
def splitSlash : List Char → List (List Char)
  | [] => [[]]
  | c :: rest =>
    if c = '/' then [] :: splitSlash rest else (splitSlash rest).modifyHead (c :: ·)

/-- The root at the front of a text. -/
def rootOf (text : List Char) : String :=
  match text.takeWhile (· == '/') with
  | [] => ""
  | ['/', '/'] => "//"
  | _ => "/"

/-- The path that a text stands for. -/
def ofString (text : String) : Path where
  root := rootOf text.toList
  parts := ((splitSlash text.toList).map String.ofList).filter fun part ↦ part ≠ "" ∧ part ≠ "."

/-- Whether the path starts at the root of all files. -/
def isAbsolute (path : Path) : Bool := path.root != ""

/-- The path with one slash between two parts. -/
def write (path : Path) : String :=
  if path.root = "" ∧ path.parts.isEmpty then "." else path.root ++ "/".intercalate path.parts

/-- Whether the path holds the null character, which no name of a file can hold. -/
def hasNull (path : Path) : Bool := path.parts.any (·.toList.contains '\x00')

end Path

end RegisterMachine
