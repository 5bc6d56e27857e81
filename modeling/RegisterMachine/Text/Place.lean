/-!
# Places in a text

A reader that takes characters off the front of a text knows how many are left. From this the
place in the whole text follows: the offset, and the line and the column, which are counted from
one.
-/

namespace RegisterMachine.Text

/-- The number of characters before the place where `left` characters are left. -/
def offsetOf (text : List Char) (left : Nat) : Nat := text.length - left

/-- The column of an offset, counted from one after the last line feed. -/
def columnOf (text : List Char) (offset : Nat) : Nat :=
  ((text.take offset).reverse.takeWhile (· != '\n')).length + 1

/-- The line of an offset, counted from one. -/
def lineOf (text : List Char) (offset : Nat) : Nat := (text.take offset).count '\n' + 1

end RegisterMachine.Text
