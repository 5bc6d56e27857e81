import RegisterMachine.LabelTable
import RegisterMachine.Source.Statement
import RegisterMachine.Text.Place
import RegisterMachine.Text.TabStop

/-!
# Reading a source line

A line is freed of the blanks around it and falls into words. The first word that is not a label
must be an opcode; it decides which statement the whole line has to be. Places are counted in the
line with its tabs written as spaces.

Reading never fails for a defect of the line: the defect is the answer (`Reading.defect`). Only a
number with too many digits stops it.
-/

namespace RegisterMachine.Source

open Text

/-- What a source line turned out to be. -/
inductive Reading where
  /-- Nothing stands on the line. -/
  | blank
  | instruction (i : Instruction)
  | defect (d : Defect)
deriving DecidableEq, Repr

/-- The words of a line from the opcode on. A first word that ends with a colon is taken for a
label. -/
def dropLabelWord : List (List Char) → List (List Char)
  | [] => []
  | word :: others => if word.getLast? = some ':' then others else word :: others

/-- An instruction, unless its label is bound already. -/
def checkLabel (labels : LabelTable) (i : Instruction) : Reading :=
  match i.label? with
  | none => .instruction i
  | some label => if labels.contains label then .defect (.duplicateLabel label) else .instruction i

/-- Reads a text with a known opcode. -/
def readWith (op : Opcode) (labels : LabelTable) (text : List Char) : Except DigitError Reading :=
  match readStatement op text with
  | .ok statement => .ok (checkLabel labels statement.instruction)
  | .error (.digits e) => .error e
  | .error (.mismatch complaint left) =>
    .ok (.defect (.unreadable complaint (columnOf text (offsetOf text left))))

/-- Reads a line against the labels that are bound already. -/
def readLine (labels : LabelTable) (line : String) : Except DigitError Reading :=
  let text := strip line.toList
  if text.isEmpty then .ok .blank
  else
    match dropLabelWord (words text) with
    | [] => .ok (.defect .missingOpcode)
    | word :: _ =>
      match Opcode.ofMnemonic? (String.ofList word) with
      | none => .ok (.defect (.unknownOpcode (String.ofList word)))
      | some op => readWith op labels (expandTabs text)

end RegisterMachine.Source
