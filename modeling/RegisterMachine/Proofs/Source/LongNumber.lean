import RegisterMachine.Proofs.Source.Language

/-!
# Lines that cannot be read

Reading a line gives an answer, be it only that the line is defective, with **one exception**: a
number with too many digits. Which lines have such a number, where it stops the reading, is said
here without scanning them (`IsOverlongMove`), and `readLine_eq_error_iff` says that these lines
and no others cannot be read. The labels that are bound do not matter.

A number stops the reading only where one is looked for, behind `mov` and the name of a register;
what stands behind the number does not count, as long as a blank or the end does. So such a line
may well have another defect, which is then not reported.

An overlong number is taken for a token of its own, with a scanner of its own (`scanOverlong`). All
that is known of tokens then applies to it: how it is found behind a gap, what ends it, and that
tabs make no difference.
-/

namespace RegisterMachine.Source

open Text

/-! ### The lines -/

/-- A number with more digits than are read. -/
structure IsOverlong (mark digits : List Char) : Prop extends IsNumeral mark digits where
  lt_length : digitLimit < digits.length

/-- The text starts as the move of an overlong number, which has this many digits. -/
inductive StartsOverlongMove : Nat → List Char → Prop
  | intro {result : Register} {before between mark digits rest : List Char}
      (hbefore : IsSpacing before) (hbetween : IsGap between) (hnumber : IsOverlong mark digits)
      (htouch : between = [] → mark ≠ []) (hrest : startsWith (!isBlank ·) rest = false) :
      StartsOverlongMove digits.length
        ("mov".toList ++ (before ++ (result.name.toList ++ (between ++ (mark ++ digits ++ rest)))))

/-- The text starts so after its label, if it has one. -/
inductive IsOverlongMove : Nat → List Char → Prop
  | unlabelled {count : Nat} {text : List Char} (h : StartsOverlongMove count text) :
      IsOverlongMove count text
  | labelled {label : String} {count : Nat} {gap text : List Char}
      (hlabel : IsIdentifier label.toList) (hgap : IsSpacing gap)
      (h : StartsOverlongMove count text) :
      IsOverlongMove count (label.toList ++ ':' :: (gap ++ text))

/-! ### Overlong numbers as tokens -/

/-- The overlong number at which scanning for a number stops: how many digits it has, and what
stands behind it. -/
def scanOverlong : Scanner Nat := fun text ↦
  match scanInteger text with
  | .error (.digits (.reading count)) =>
    .ok (count, (takeSign (skip text)).2.dropWhile Char.isDigit)
  | _ => stopAt .integer (skip text)

theorem readDecimal_eq_error_iff {sign : Sign} {digits : List Char} {e : DigitError} :
    readDecimal sign digits = .error e ↔
      digitLimit < digits.length ∧ e = .reading digits.length := by
  by_cases h : digits.length ≤ digitLimit
  · simp [readDecimal, h, Nat.not_lt.2 h]
  · simp [readDecimal, h, Nat.not_le.1 h, eq_comm]

/-- When scanning for a number stops because of its length. -/
theorem scanInteger_eq_digits_iff {text unsigned : List Char} {sign : Sign} {e : DigitError}
    (hsign : takeSign (skip text) = (sign, unsigned)) :
    scanInteger text = .error (.digits e) ↔
      unsigned.takeWhile Char.isDigit ≠ [] ∧
        startsWith (!isBlank ·) (unsigned.dropWhile Char.isDigit) = false ∧
        readDecimal sign (unsigned.takeWhile Char.isDigit) = .error e := by
  simp only [scanInteger, hsign]
  generalize unsigned.takeWhile Char.isDigit = digits
  generalize unsigned.dropWhile Char.isDigit = left
  split
  next hform =>
    refine ⟨fun h ↦ (by cases h), ?_⟩
    rintro ⟨hne, hends, -⟩
    simp [hne, hends] at hform
  next hform =>
    simp only [Bool.or_eq_true, not_or, List.isEmpty_iff, Bool.not_eq_true] at hform
    cases readDecimal sign digits with
    | error e' => simp [hform]
    | ok value =>
      refine ⟨fun h ↦ ?_, fun h ↦ (by cases h.2.2)⟩
      dsimp only at h
      split at h <;> cases h

/-- An overlong number is taken where scanning for a number stops because of it. -/
theorem scanOverlong_eq_ok_iff {text rest : List Char} {count : Nat} :
    scanOverlong text = .ok (count, rest) ↔
      scanInteger text = .error (.digits (.reading count)) ∧
        (takeSign (skip text)).2.dropWhile Char.isDigit = rest := by
  rw [scanOverlong]
  split
  next h => simp [h]
  next hne => exact ⟨(nomatch ·), fun h ↦ (hne count h.1).elim⟩

/-- Scanning for a number never stops with other words about its length. -/
theorem scanInteger_eq_digits_iff_scanOverlong {text : List Char} {e : DigitError} :
    scanInteger text = .error (.digits e) ↔
      ∃ count rest, scanOverlong text = .ok (count, rest) ∧ e = .reading count := by
  constructor
  · intro h
    rcases hsign : takeSign (skip text) with ⟨sign, unsigned⟩
    obtain ⟨-, -, hread⟩ := (scanInteger_eq_digits_iff hsign).1 h
    obtain ⟨-, rfl⟩ := readDecimal_eq_error_iff.1 hread
    exact ⟨_, _, scanOverlong_eq_ok_iff.2 ⟨h, rfl⟩, rfl⟩
  · rintro ⟨count, rest, h, rfl⟩
    exact (scanOverlong_eq_ok_iff.1 h).1

theorem takes_scanOverlong :
    Takes scanOverlong
      (fun count token ↦ ∃ mark digits, IsOverlong mark digits ∧ token = mark ++ digits ∧
        count = digits.length)
      (!isBlank ·) where
  ok_iff {text count rest} := by
    rw [scanOverlong_eq_ok_iff]
    constructor
    · rintro ⟨hscan, rfl⟩
      rcases hsign : takeSign (skip text) with ⟨sign, unsigned⟩
      obtain ⟨mark, hmark, hskip⟩ := exists_isSign_of_takeSign hsign
      obtain ⟨hne, hends, hread⟩ := (scanInteger_eq_digits_iff hsign).1 hscan
      obtain ⟨hlength, hcount⟩ := readDecimal_eq_error_iff.1 hread
      have hnumber : IsOverlong mark (unsigned.takeWhile Char.isDigit) :=
        ⟨⟨⟨sign, hmark⟩, fun _ hc ↦ List.mem_takeWhile_imp hc, hne⟩, hlength⟩
      refine ⟨_, ⟨mark, _, hnumber, rfl, DigitError.reading.inj hcount⟩, ?_, hends⟩
      rw [hskip, List.append_assoc, List.takeWhile_append_dropWhile]
    · rintro ⟨_, ⟨mark, digits, hnumber, rfl, rfl⟩, hskip, hrest⟩
      obtain ⟨sign, hmark⟩ := hnumber.isSign
      have hsign : takeSign (skip text) = (sign, digits ++ rest) := by
        rw [hskip, List.append_assoc]
        exact takeSign_append hmark (hnumber.startsWith_isDigit rest)
      obtain ⟨htake, hdrop⟩ :=
        span_append hnumber.isDigit (startsWith_isDigit_of_isBlank hrest)
      rw [scanInteger_eq_digits_iff hsign, hsign, htake, hdrop]
      exact ⟨⟨hnumber.nonempty, hrest, readDecimal_eq_error_iff.2 ⟨hnumber.lt_length, rfl⟩⟩, rfl⟩
  isSolid := by
    rintro count _ ⟨mark, digits, hnumber, rfl, -⟩
    exact hnumber.isSolid
  ends h := by simp [isBlank_of_isSkipped h]

/-! ### Where a statement stops because of a number -/

/-- A computation that may stop does so in one of its halves. -/
theorem bind_eq_error_iff {ε α β : Type} {x : Except ε α} {f : α → Except ε β} {e : ε} :
    (x >>= f) = .error e ↔ x = .error e ∨ ∃ a, x = .ok a ∧ f a = .error e := by
  cases x with
  | error e' => simp [bind, Except.bind]
  | ok a => simp [bind, Except.bind]

/-- The scanner does not stop because of a number. -/
def NeverOverlong {α : Type} (scan : Scanner α) : Prop := ∀ text e, scan text ≠ .error (.digits e)

/-- What comes after a scanner that does not stop because of a number. -/
theorem NeverOverlong.bind_eq_digits_iff {α β : Type} {scan : Scanner α}
    (h : NeverOverlong scan) {next : α × List Char → Except ScanError β} {text : List Char}
    {e : DigitError} :
    (scan text >>= next) = .error (.digits e) ↔
      ∃ token, scan text = .ok token ∧ next token = .error (.digits e) := by
  rw [bind_eq_error_iff]
  exact or_iff_right (h text e)

theorem neverOverlong_scanIdentifier (what : Expectation) :
    NeverOverlong (scanIdentifier what) := by
  intro text e
  rw [scanIdentifier]
  split <;> simp [stopAt]

theorem neverOverlong_scanKeyword (op : Opcode) : NeverOverlong (scanKeyword op) := by
  intro text e
  rw [scanKeyword]
  split
  · split <;> simp [stopAt]
  · simp [stopAt]

theorem neverOverlong_scanRegister : NeverOverlong scanRegister := by
  intro text e
  simp only [scanRegister]
  split
  · split <;> simp [stopAt]
  · simp [stopAt]

theorem neverOverlong_scanEnd : NeverOverlong scanEnd := by
  intro text e
  rw [scanEnd]
  split <;> simp [stopAt]

/-- The operands of a move, with an overlong number in the place of the number. -/
def scanOverlongOperands : Scanner Nat := fun text ↦ do
  let (_, text) ← scanRegister text
  scanOverlong text

/-- **Only the number of a move can stop the scanning of operands.** -/
theorem scanOperands_eq_digits_iff {op : Opcode} {text : List Char} {e : DigitError} :
    scanOperands op text = .error (.digits e) ↔
      op = .mov ∧ ∃ count rest, scanOverlongOperands text = .ok (count, rest) ∧
        e = .reading count := by
  have hregister := neverOverlong_scanRegister
  cases op with
  | arithmetic op =>
    refine ⟨fun h ↦ ?_, fun h ↦ nomatch h.1⟩
    obtain ⟨_, -, h⟩ := hregister.bind_eq_digits_iff.1 h
    obtain ⟨_, -, h⟩ := hregister.bind_eq_digits_iff.1 h
    exact nomatch h
  | out =>
    refine ⟨fun h ↦ ?_, fun h ↦ nomatch h.1⟩
    obtain ⟨_, -, h⟩ := hregister.bind_eq_digits_iff.1 h
    exact nomatch h
  | jnz =>
    refine ⟨fun h ↦ ?_, fun h ↦ nomatch h.1⟩
    obtain ⟨_, -, h⟩ := hregister.bind_eq_digits_iff.1 h
    obtain ⟨_, -, h⟩ := (neverOverlong_scanIdentifier .labelReference).bind_eq_digits_iff.1 h
    exact nomatch h
  | mov =>
    simp only [true_and]
    constructor
    · intro h
      obtain ⟨⟨result, text'⟩, hresult, h⟩ := hregister.bind_eq_digits_iff.1 h
      rcases bind_eq_error_iff.1 h with hscan | ⟨_, -, h⟩
      · obtain ⟨count, rest, hnumber, rfl⟩ := scanInteger_eq_digits_iff_scanOverlong.1 hscan
        exact ⟨count, rest, bind_eq_ok_iff.2 ⟨_, hresult, hnumber⟩, rfl⟩
      · exact nomatch h
    · rintro ⟨count, rest, h, rfl⟩
      obtain ⟨⟨result, text'⟩, hresult, hscan⟩ := bind_eq_ok_iff.1 h
      have hinteger := scanInteger_eq_digits_iff_scanOverlong.2 ⟨count, rest, hscan, rfl⟩
      exact hregister.bind_eq_digits_iff.2 ⟨_, hresult, bind_eq_error_iff.2 (.inl hinteger)⟩

/-- A label, if there is one, and the move of an overlong number. -/
def scanOverlongMove : Scanner Nat := fun text ↦ do
  let (_, text) ← scanKeyword .mov (scanOptionalLabel text).2
  scanOverlongOperands text

/-- **A statement stops because of a number exactly where an overlong number is moved.** -/
theorem readStatement_eq_digits_iff {op : Opcode} {text : List Char} {e : DigitError} :
    readStatement op text = .error (.digits e) ↔
      op = .mov ∧ ∃ count rest, scanOverlongMove text = .ok (count, rest) ∧
        e = .reading count := by
  have hkeyword := neverOverlong_scanKeyword op
  constructor
  · intro h
    rcases bind_eq_error_iff.1 h with h | ⟨_, -, h⟩
    · rcases bind_eq_error_iff.1 h with h | ⟨_, -, h⟩
      · obtain ⟨_, hword, h⟩ := hkeyword.bind_eq_digits_iff.1 h
        obtain ⟨rfl, count, rest, hscan, rfl⟩ := scanOperands_eq_digits_iff.1 h
        exact ⟨rfl, count, rest, bind_eq_ok_iff.2 ⟨_, hword, hscan⟩, rfl⟩
      · exact nomatch h
    · obtain ⟨_, -, h⟩ := neverOverlong_scanEnd.bind_eq_digits_iff.1 h
      exact nomatch h
  · rintro ⟨rfl, count, rest, h, rfl⟩
    obtain ⟨_, hword, hscan⟩ := bind_eq_ok_iff.1 h
    have hoperands := scanOperands_eq_digits_iff.2 ⟨rfl, count, rest, hscan, rfl⟩
    have hoperation : scanOperation .mov (scanOptionalLabel text).2 =
        .error (.digits (.reading count)) :=
      hkeyword.bind_eq_digits_iff.2 ⟨_, hword, hoperands⟩
    exact bind_eq_error_iff.2 (.inl (bind_eq_error_iff.2 (.inl hoperation)))

theorem tabBlind_scanOverlongMove : TabBlind scanOverlongMove :=
  tabBlind_scanOptionalLabel.bind fun _ ↦ (takes_scanKeyword .mov).tabBlind.bind fun _ ↦
    takes_scanRegister.tabBlind.bind fun _ ↦ takes_scanOverlong.tabBlind

/-- Whether a number stops the reading of a statement does not depend on tabs. -/
theorem readStatement_expandTabs_eq_digits_iff {op : Opcode} {text : List Char} {e : DigitError} :
    readStatement op (expandTabs text) = .error (.digits e) ↔
      readStatement op text = .error (.digits e) := by
  have hspread := spreads_expandTabs text
  rw [readStatement_eq_digits_iff, readStatement_eq_digits_iff]
  refine and_congr_right fun _ ↦ exists_congr fun count ↦ ⟨?_, ?_⟩
  · rintro ⟨left, hscan, he⟩
    obtain ⟨rest, hscan, -⟩ := tabBlind_scanOverlongMove.gather hspread hscan
    exact ⟨rest, hscan, he⟩
  · rintro ⟨rest, hscan, he⟩
    obtain ⟨left, hscan, -⟩ := tabBlind_scanOverlongMove.spread hspread hscan
    exact ⟨left, hscan, he⟩

/-! ### Spelling and scanning -/

/-- What starts as the move of an overlong number is scanned as one, after any gap. -/
theorem StartsOverlongMove.scan {count : Nat} {text : List Char} (h : StartsOverlongMove count text)
    {gap : List Char} (hgap : IsGap gap) :
    ∃ after rest, scanKeyword .mov (gap ++ text) = .ok ((), after) ∧
      scanOverlongOperands after = .ok (count, rest) := by
  obtain @⟨result, before, between, mark, digits, rest, hbefore, hbetween, hnumber, htouch,
    hrest⟩ := h
  obtain ⟨sign, hsign⟩ := hnumber.isSign
  have hword : startsWith isWordChar (between ++ (mark ++ digits ++ rest)) = false := by
    rw [List.append_assoc]
    exact startsWith_isWordChar_number hbetween hsign htouch (digits ++ rest)
  have hkeyword := (takes_scanKeyword .mov).scan_append (a := ()) hgap rfl
    (startsWith_append_of_isSpacing hbefore isKeywordChar_of_isSkipped
      (result.name.toList ++ (between ++ (mark ++ digits ++ rest))))
  have hresult := takes_scanRegister.scan_append (a := result) hbefore.isGap rfl hword
  have hscan := takes_scanOverlong.scan_append hbetween ⟨mark, digits, hnumber, rfl, rfl⟩ hrest
  exact ⟨_, rest, hkeyword, bind_eq_ok_iff.2 ⟨_, hresult, hscan⟩⟩

/-- What is scanned as the move of an overlong number starts as one, after a gap. -/
theorem exists_startsOverlongMove {text after rest : List Char} {count : Nat}
    (hword : scanKeyword .mov text = .ok ((), after))
    (hscan : scanOverlongOperands after = .ok (count, rest)) :
    ∃ gap body, IsGap gap ∧ text = gap ++ body ∧ StartsOverlongMove count body := by
  obtain ⟨gap, _, hgap, rfl, rfl, hends⟩ := (takes_scanKeyword .mov).exists_of_ok hword
  obtain ⟨⟨result, left⟩, hresult, hoverlong⟩ := bind_eq_ok_iff.1 hscan
  obtain ⟨before, hbefore, rfl, hname⟩ :=
    exists_register_of_scanRegister isKeywordChar_of_isIdentChar hends hresult
  obtain ⟨between, _, hbetween, ⟨mark, digits, hnumber, rfl, rfl⟩, rfl, hrest⟩ :=
    takes_scanOverlong.exists_of_ok hoverlong
  exact ⟨gap, _, hgap, rfl,
    .intro hbefore hbetween hnumber (hnumber.mark_ne_nil hname) hrest⟩

theorem StartsOverlongMove.exists_head {count : Nat} {text : List Char}
    (h : StartsOverlongMove count text) :
    ∃ before rest, IsSpacing before ∧ text = Opcode.mov.mnemonic.toList ++ (before ++ rest) := by
  obtain ⟨hbefore⟩ := h
  exact ⟨_, _, hbefore, rfl⟩

/-! ### Lines -/

/-- **A line with the move of an overlong number is scanned as one**, and its words show the
opcode. -/
theorem IsOverlongMove.scan {count : Nat} {text : List Char} (h : IsOverlongMove count text) :
    (∃ others, dropLabelWord (words text) = Opcode.mov.mnemonic.toList :: others) ∧
      ∃ rest, scanOverlongMove text = .ok (count, rest) := by
  cases h with
  | unlabelled h =>
    obtain ⟨before, left, hbefore, rfl⟩ := h.exists_head
    obtain ⟨after, rest, hword, hscan⟩ := h.scan isGap_nil
    have hlabel := scanOptionalLabel_eq_iff.2
      (.inr ⟨rfl, rfl, scanLabel_ne_ok .mov hbefore left⟩)
    refine ⟨⟨_, dropLabelWord_words_opcode .mov hbefore left⟩, rest, ?_⟩
    rw [scanOverlongMove, hlabel]
    exact bind_eq_ok_iff.2 ⟨_, hword, hscan⟩
  | @labelled label count gap text hname hgap h =>
    obtain ⟨before, left, hbefore, rfl⟩ := h.exists_head
    obtain ⟨after, rest, hword, hscan⟩ := h.scan hgap.isGap
    have hlabel := scanOptionalLabel_eq_iff.2
      (.inl ⟨label, rfl,
        scanLabel_append hname (gap ++ (Opcode.mov.mnemonic.toList ++ (before ++ left)))⟩)
    refine ⟨⟨_, dropLabelWord_words_label hname hgap .mov hbefore left⟩, rest, ?_⟩
    rw [scanOverlongMove, hlabel]
    exact bind_eq_ok_iff.2 ⟨_, hword, hscan⟩

/-- **A trimmed text that is scanned as the move of an overlong number is one**, provided that its
words show the opcode. -/
theorem isOverlongMove_of_scan {text rest : List Char} {count : Nat} {others : List (List Char)}
    (htrimmed : IsTrimmed text)
    (hwords : dropLabelWord (words text) = Opcode.mov.mnemonic.toList :: others)
    (h : scanOverlongMove text = .ok (count, rest)) : IsOverlongMove count text := by
  obtain ⟨⟨_, after⟩, hword, hscan⟩ := bind_eq_ok_iff.1 h
  obtain ⟨gap, body, hgap, hmiddle, hbody⟩ := exists_startsOverlongMove hword hscan
  rcases hoptional : scanOptionalLabel text with ⟨label?, middle⟩
  rw [hoptional] at hmiddle
  subst hmiddle
  rcases scanOptionalLabel_eq_iff.1 hoptional with ⟨label, rfl, hlabel⟩ | ⟨rfl, rfl, -⟩
  · obtain ⟨front, _, hfront, ⟨hname, rfl⟩, rfl, -⟩ := takes_scanLabel.exists_of_ok hlabel
    obtain rfl := hfront.eq_nil_of_isTrimmed_left htrimmed
    simp only [List.nil_append, ← List.append_cons] at hwords ⊢
    refine .labelled hname ⟨hgap, ?_⟩ hbody
    rintro rfl
    obtain ⟨before, left, hbefore, rfl⟩ := hbody.exists_head
    exact not_dropLabelWord_touching hname .mov hbefore left .mov others hwords
  · obtain rfl := hgap.eq_nil_of_isTrimmed_left htrimmed
    exact .unlabelled hbody

/-- A number stops the reading of a line in the statement which the line is. -/
theorem readWith_eq_error_iff {op : Opcode} {labels : LabelTable} {text : List Char}
    {e : DigitError} :
    readWith op labels text = .error e ↔ readStatement op text = .error (.digits e) := by
  rw [readWith]
  rcases readStatement op text with (_ | _) | statement <;> simp

/-- **The lines that cannot be read.** Whatever labels are bound, reading a line fails exactly when
the line, freed of the blanks around it, moves an overlong number. -/
theorem readLine_eq_error_iff {labels : LabelTable} {line : String} {e : DigitError} :
    readLine labels line = .error e ↔
      ∃ count, IsOverlongMove count (strip line.toList) ∧ e = .reading count := by
  constructor
  · intro hread
    rcases readLine_cases labels line with ⟨op, others, hwords, hwith⟩ | ⟨-, hblank⟩ | ⟨d, hdefect⟩
    · rw [hwith, readWith_eq_error_iff, readStatement_expandTabs_eq_digits_iff,
        readStatement_eq_digits_iff] at hread
      obtain ⟨rfl, count, rest, hscan, he⟩ := hread
      exact ⟨count, isOverlongMove_of_scan (isTrimmed_strip _) hwords hscan, he⟩
    · cases hblank.symm.trans hread
    · cases hdefect.symm.trans hread
  · rintro ⟨count, h, rfl⟩
    obtain ⟨⟨others, hwords⟩, rest, hscan⟩ := h.scan
    rw [readLine_eq_readWith hwords, readWith_eq_error_iff,
      readStatement_expandTabs_eq_digits_iff, readStatement_eq_digits_iff]
    exact ⟨rfl, count, rest, hscan, rfl⟩

end RegisterMachine.Source
