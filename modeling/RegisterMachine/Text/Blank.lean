/-!
# Blank characters

Which characters count as blank, how a text is freed of the blanks around it, and how it falls
into words. A word is a run of characters without blanks that no longer run contains.
-/

namespace RegisterMachine.Text

/-- The blank characters: the ASCII controls that move the carriage, the four information
separators, the space, and the spaces and separators beyond ASCII. -/
def isBlank (c : Char) : Bool :=
  let n := c.toNat
  (0x09 ≤ n && n ≤ 0x0D) || (0x1C ≤ n && n ≤ 0x20) || n == 0x85 || n == 0xA0 || n == 0x1680 ||
    (0x2000 ≤ n && n ≤ 0x200A) || n == 0x2028 || n == 0x2029 || n == 0x202F || n == 0x205F ||
    n == 0x3000

/-- The text without the blanks at its two ends. -/
def strip (text : List Char) : List Char :=
  ((text.dropWhile isBlank).reverse.dropWhile isBlank).reverse

/-- The words of a text, in order. -/
def words : List Char → List (List Char)
  | [] => []
  | [c] => if isBlank c then [] else [[c]]
  | c :: d :: rest =>
    if isBlank c then words (d :: rest)
    else if isBlank d then [c] :: words (d :: rest)
    else (words (d :: rest)).modifyHead (c :: ·)

/-! ### Small facts -/

@[simp] theorem strip_nil : strip [] = [] := rfl

@[simp] theorem words_nil : words [] = [] := rfl

theorem words_cons_of_isBlank {c : Char} (h : isBlank c) (rest : List Char) :
    words (c :: rest) = words rest := by
  cases rest <;> simp [words, h]

end RegisterMachine.Text
