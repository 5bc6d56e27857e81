import RegisterMachine.Instruction

/-!
# Diagnostics

A diagnostic says which source line is defective and why. A defective line is passed over; the
lines around it are read as if it were not there.
-/

namespace RegisterMachine

open Text

/-- What the reader of a line looked for. -/
inductive Expectation where
  | identifier
  | label
  | labelReference
  | register
  | integer
  /-- The word for an opcode. -/
  | keyword (op : Opcode)
  /-- The end of the word for an opcode, which stands here. -/
  | keywordEnd (op : Opcode)
  | endOfText
deriving DecidableEq, Repr

/-- Why the reader of a line stopped. -/
inductive Complaint where
  /-- What it looked for is not there. -/
  | expected (what : Expectation)
  /-- A literal does not fit into 32 bits. -/
  | outOfRange (value : Int)
deriving DecidableEq, Repr

/-- The wording of what was looked for. -/
def Expectation.message : Expectation → String
  | identifier => "Expected W:(A-Z_a-z, 0-9A-Z_a-z)"
  | label => "Expected label"
  | labelReference => "Expected label reference"
  | register => "Expected register"
  | integer => "Expected integer"
  | keyword op => "Expected Keyword '" ++ op.mnemonic ++ "'"
  | keywordEnd op =>
    "Expected Keyword '" ++ op.mnemonic ++
      "', keyword was immediately followed by keyword character"
  | endOfText => "Expected end of text"

/-- The wording of a complaint. -/
def Complaint.message : Complaint → String
  | expected what => what.message
  | outOfRange value => "Literal " ++ decimal value ++ " out of 32-bit range"

/-- What is wrong with a line. -/
inductive Defect where
  /-- Reading stopped at this column. -/
  | unreadable (complaint : Complaint) (column : Nat)
  /-- Nothing stands after the label. -/
  | missingOpcode
  /-- The word at the place of the opcode is none. -/
  | unknownOpcode (word : String)
  /-- The label is already bound. -/
  | duplicateLabel (label : String)
deriving DecidableEq, Repr

/-- The wording of a defect. -/
def Defect.reason : Defect → String
  | unreadable complaint column => complaint.message ++ " (col " ++ column.repr ++ ")"
  | missingOpcode => "Missing opcode"
  | unknownOpcode word => "Unknown opcode " ++ word
  | duplicateLabel label => "Duplicate label " ++ label

/-- A defect with the number of its line. -/
structure Diagnostic where
  line : Int
  defect : Defect
deriving DecidableEq, Repr

/-- The wording of a diagnostic. -/
def Diagnostic.message (d : Diagnostic) : String :=
  "Line " ++ decimal d.line ++ ": " ++ d.defect.reason

end RegisterMachine
