/-!
# Similar words

How much two words have in common: the longest run that stands in both, and then the same on the
left and on the right of it. The measure is twice the number of common characters over the number
of all characters. Words are similar from a measure of three fifths on.
-/

namespace RegisterMachine.Text

/-- The length of the longest common start of two texts. -/
def commonStart : List Char → List Char → Nat
  | c :: cs, d :: ds => if c = d then commonStart cs ds + 1 else 0
  | _, _ => 0

/-- A run of `length` characters that stands at `left` in one text and at `right` in another. -/
structure CommonRun where
  left : Nat := 0
  right : Nat := 0
  length : Nat := 0

/-- The longest common run; of several the one that comes first in the first text, and then the
one that comes first in the second. -/
def longestRun (a b : List Char) : CommonRun :=
  (List.range a.length).foldl (fun best i ↦
    (List.range b.length).foldl (fun best j ↦
      let length := commonStart (a.drop i) (b.drop j)
      if best.length < length then ⟨i, j, length⟩ else best) best) {}

/-- The number of common characters, with a bound on how often the texts are cut. -/
def commonWithin : Nat → List Char → List Char → Nat
  | 0, _, _ => 0
  | cuts + 1, a, b =>
    let run := longestRun a b
    if run.length = 0 then 0
    else
      commonWithin cuts (a.take run.left) (b.take run.right) + run.length +
        commonWithin cuts (a.drop (run.left + run.length)) (b.drop (run.right + run.length))

/-- The number of common characters of two words. Each cut leaves shorter words, so the length of
one of them bounds the cuts. -/
def commonCount (a b : String) : Nat := commonWithin (a.length + 1) a.toList b.toList

/-- Whether the measure of two words is at least three fifths. -/
def similar (a b : String) : Bool := 3 * (a.length + b.length) ≤ 10 * commonCount a b

/-- Whether `a` comes before `b` among the words similar to a given one: its measure is greater,
or the measures are equal and it is the later word of the two. -/
def closer (word a b : String) : Bool :=
  let measureA := commonCount a word * (b.length + word.length)
  let measureB := commonCount b word * (a.length + word.length)
  measureB < measureA || (measureA == measureB && decide (b < a))

/-- The words most similar to a given one, the closest first, and at most `count` of them. -/
def closest (count : Nat) (word : String) (words : List String) : List String :=
  ((words.filter (similar · word)).mergeSort fun a b ↦ !closer word b a).take count

end RegisterMachine.Text
