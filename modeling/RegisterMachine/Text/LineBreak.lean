/-!
# Line breaks

A text that was read from a file falls into lines in two steps. First the three ways to end a
line in a file (line feed, carriage return, or both in this order) become a line feed. Then the
text is cut at every line break; a break ends a line, so a text that ends with one has no empty
line after it.
-/

namespace RegisterMachine.Text

/-- The characters that end a line. -/
def isLineBreak (c : Char) : Bool :=
  let n := c.toNat
  (0x0A ≤ n && n ≤ 0x0D) || (0x1C ≤ n && n ≤ 0x1E) || n == 0x85 || n == 0x2028 || n == 0x2029

/-- Writes every carriage return, with the line feed that may follow it, as one line feed. -/
def unifyBreaks : List Char → List Char
  | [] => []
  | '\r' :: '\n' :: rest => '\n' :: unifyBreaks rest
  | '\r' :: rest => '\n' :: unifyBreaks rest
  | c :: rest => c :: unifyBreaks rest

/-- Cuts a text at its line breaks, which are left out. -/
def splitLines : List Char → List (List Char)
  | [] => []
  | c :: rest =>
    if isLineBreak c then [] :: splitLines rest
    else match splitLines rest with
      | [] => [[c]]
      | line :: others => (c :: line) :: others

/-- The lines of a text as it stands in a file. -/
def fileLines (text : List Char) : List String :=
  (splitLines (unifyBreaks text)).map String.ofList

/-! ### Small facts -/

@[simp] theorem splitLines_nil : splitLines [] = [] := rfl

theorem splitLines_cons_of_isLineBreak {c : Char} (h : isLineBreak c) (rest : List Char) :
    splitLines (c :: rest) = [] :: splitLines rest := by
  simp [splitLines, h]

end RegisterMachine.Text
