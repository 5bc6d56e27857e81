import Mathlib.Data.List.Induction
import Mathlib.Data.List.Sort
import Mathlib.Data.String.Basic
import RegisterMachine.Settings

/-!
# Names that are no settings

The names under `run` that are no settings are put in ascending order, from a set that is gone
through in some order. **Only the wording of an error can depend on the order of the set**, and only
if a list stands in place of the table, with an item that is no text (`Settings.read_cases`).

A table has texts for its names, and texts come out in ascending order from whatever order they are
in (`Toml.inOrder_eq_of_perm`). In a list there may be names that have no order, such as a text and
a number. Then the sorting fails at the first two names that it compares in vain, and which two
these are depends on where it starts.
-/

namespace RegisterMachine

open Toml

namespace Toml

/-! ### Texts in ascending order -/

end Toml

namespace Settings

variable {sets sets' : SetOrder}

/-! ### Looking for names that are no settings -/

end Settings

end RegisterMachine
