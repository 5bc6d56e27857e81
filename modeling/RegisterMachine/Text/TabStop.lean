/-!
# Tab stops

Tab stops stand at every eighth column. Columns are counted from the last line feed or carriage
return.
-/

namespace RegisterMachine.Text

/-- The distance from a column to the next tab stop. -/
def toTabStop (column : Nat) : Nat := 8 - column % 8

/-- Writes every tab of a text that starts at `column` as spaces up to the next tab stop. -/
def expandTabsFrom (column : Nat) : List Char → List Char
  | [] => []
  | c :: rest =>
    if c = '\t' then
      List.replicate (toTabStop column) ' ' ++ expandTabsFrom (column + toTabStop column) rest
    else if c = '\n' ∨ c = '\r' then c :: expandTabsFrom 0 rest
    else c :: expandTabsFrom (column + 1) rest

/-- Writes every tab as spaces up to the next tab stop. -/
def expandTabs (text : List Char) : List Char := expandTabsFrom 0 text

theorem toTabStop_pos (column : Nat) : 0 < toTabStop column := by
  unfold toTabStop; omega

end RegisterMachine.Text
