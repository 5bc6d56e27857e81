/-!
# Control sequences

A control sequence steers a terminal and shows nothing. It starts with an escape and an opening
bracket; then come parameters, then marks, and one last character that says what is to be done.
Each of the three has a range of ASCII of its own, so where a sequence ends is never in doubt. A
sequence without its last character is none.
-/

namespace RegisterMachine.Text

/-- A parameter of a control sequence: a digit or one of `:;<=>?`. -/
def isControlParameter (c : Char) : Bool := '0' ≤ c && c ≤ '?'

/-- A mark between the parameters and the last character: a space or a sign up to the slash. -/
def isControlMark (c : Char) : Bool := ' ' ≤ c && c ≤ '/'

/-- The last character of a control sequence: a letter or another sign from `@` on. -/
def isControlFinal (c : Char) : Bool := '@' ≤ c && c ≤ '~'

/-- The number of characters of the control sequence at the front of a text, or zero. -/
def controlLength : List Char → Nat
  | '\x1b' :: '[' :: text =>
    let parameters := text.takeWhile isControlParameter
    let marks := (text.dropWhile isControlParameter).takeWhile isControlMark
    match (text.dropWhile isControlParameter).dropWhile isControlMark with
    | c :: _ => if isControlFinal c then parameters.length + marks.length + 3 else 0
    | [] => 0
  | _ => 0

/-- Leaves out the first `skipped` characters of a text, and its control sequences after them. -/
def dropControlsFrom : Nat → List Char → List Char
  | _, [] => []
  | skipped + 1, _ :: rest => dropControlsFrom skipped rest
  | 0, c :: rest =>
    match controlLength (c :: rest) with
    | 0 => c :: dropControlsFrom 0 rest
    | length + 1 => dropControlsFrom length rest

/-- The text without its control sequences. -/
def withoutControls (text : String) : String := String.ofList (dropControlsFrom 0 text.toList)

/-! ### Small facts -/

theorem controlLength_cons_of_ne {c : Char} (h : c ≠ '\x1b') (rest : List Char) :
    controlLength (c :: rest) = 0 := by
  unfold controlLength
  split
  · next heq => exact absurd (List.cons.inj heq).1 h
  · rfl

/-- A text without an escape has no control sequences. -/
theorem dropControlsFrom_eq_self {text : List Char} (h : '\x1b' ∉ text) :
    dropControlsFrom 0 text = text := by
  induction text with
  | nil => rfl
  | cons c rest ih =>
    simp only [List.mem_cons, not_or] at h
    have hc : c ≠ '\x1b' := fun hc ↦ h.1 hc.symm
    rw [dropControlsFrom, controlLength_cons_of_ne hc, ih h.2]

theorem withoutControls_eq_self {text : String} (h : '\x1b' ∉ text.toList) :
    withoutControls text = text := by
  rw [withoutControls, dropControlsFrom_eq_self h, String.ofList_toList]

end RegisterMachine.Text
