import Mathlib.Data.List.TakeWhile
import RegisterMachine.Proofs.Source.Characters
import RegisterMachine.Proofs.Text.Words

/-!
# What a scanner takes off a text

The five scanners for tokens differ in what they look for and in what must not follow, and in
nothing else. `Takes scan IsToken glues` says it once: `scan` succeeds on a text exactly when, after
a gap, the text starts with a token that is not followed by a character of the class `glues`; and
then it answers the token's value and all that stands behind the token. Later proofs use this
description (`Takes.scan_append` to run a scanner, `Takes.exists_of_ok` to invert one) and never
open a scanner.

Two side conditions belong to the description, since every consumer needs them: a token is
**solid**, that is, it holds no blank and is not empty; and a gap always ends it.
-/

namespace RegisterMachine.Source

open Text

/-! ### Gaps and the first character -/

@[simp] theorem startsWith_nil (test : Char → Bool) : startsWith test [] = false := rfl

@[simp] theorem startsWith_cons (test : Char → Bool) (c : Char) (rest : List Char) :
    startsWith test (c :: rest) = test c := rfl

theorem isGap_nil : IsGap [] := fun _ h ↦ nomatch h

/-- A text taken apart at its next token. -/
theorem exists_gap_append_skip (text : List Char) : ∃ gap, IsGap gap ∧ text = gap ++ skip text :=
  ⟨text.takeWhile isSkipped, fun _ hc ↦ List.mem_takeWhile_imp hc,
    List.takeWhile_append_dropWhile.symm⟩

theorem skip_append {gap : List Char} (hgap : IsGap gap) (text : List Char) :
    skip (gap ++ text) = skip text :=
  List.dropWhile_append_of_pos hgap

/-- A gap at the front ends whatever stands before it. -/
theorem startsWith_append_of_isSpacing {gap : List Char} (hgap : IsSpacing gap)
    {test : Char → Bool} (htest : ∀ {c}, isSkipped c = true → test c = false) (rest : List Char) :
    startsWith test (gap ++ rest) = false := by
  obtain ⟨hgap, hne⟩ := hgap
  cases gap with
  | nil => exact absurd rfl hne
  | cons c gap => exact htest (hgap c List.mem_cons_self)

/-- The longest run of a class of characters, taken off a text that is written as such a run and a
rest. -/
theorem span_append {test : Char → Bool} {run rest : List Char} (hrun : ∀ c ∈ run, test c = true)
    (hrest : startsWith test rest = false) :
    (run ++ rest).takeWhile test = run ∧ (run ++ rest).dropWhile test = rest := by
  rw [List.takeWhile_append_of_pos hrun, List.dropWhile_append_of_pos hrun]
  cases rest with
  | nil => simp
  | cons c rest =>
    rw [startsWith_cons] at hrest
    simp [hrest]

/-- Where the longest run of a class of characters ends is determined by the text. -/
theorem append_inj_of_startsWith {test : Char → Bool} {run run' rest rest' : List Char}
    (hrun : ∀ c ∈ run, test c = true) (hrun' : ∀ c ∈ run', test c = true)
    (hrest : startsWith test rest = false) (hrest' : startsWith test rest' = false)
    (h : run ++ rest = run' ++ rest') : run = run' ∧ rest = rest' := by
  obtain ⟨htake, hdrop⟩ := span_append hrun hrest
  obtain ⟨htake', hdrop'⟩ := span_append hrun' hrest'
  rw [h] at htake hdrop
  exact ⟨htake.symm.trans htake', hdrop.symm.trans hdrop'⟩

theorem startsWith_dropWhile (test : Char → Bool) (text : List Char) :
    startsWith test (text.dropWhile test) = false := by
  have h := List.head?_dropWhile_not test text
  rw [startsWith]
  cases hd : (text.dropWhile test).head? with
  | none => rfl
  | some c => simpa [hd] using h

/-! ### Solid texts -/

theorem IsIdentifier.isSolid {text : List Char} (h : IsIdentifier text) : IsSolid text :=
  ⟨h.isBlank, h.ne_nil⟩

/-- Nothing is skipped before a solid text. -/
theorem skip_append_of_isSolid {token : List Char} (h : IsSolid token) (rest : List Char) :
    skip (token ++ rest) = token ++ rest := by
  obtain ⟨hblank, hne⟩ := h
  cases token with
  | nil => exact absurd rfl hne
  | cons c token =>
    have hc : isSkipped c = false := isSkipped_of_isBlank_eq_false (hblank c List.mem_cons_self)
    simp [skip, hc]

/-! ### Scanners for tokens -/

/-- The scanner takes the tokens of a kind, each with the value that `IsToken` gives it, unless a
character of the class `glues` follows. -/
structure Takes {α : Type} (scan : Scanner α) (IsToken : α → List Char → Prop)
    (glues : Char → Bool) : Prop where
  ok_iff : ∀ {text : List Char} {a : α} {rest : List Char}, scan text = .ok (a, rest) ↔
    ∃ token, IsToken a token ∧ skip text = token ++ rest ∧ startsWith glues rest = false
  isSolid : ∀ {a : α} {token : List Char}, IsToken a token → IsSolid token
  ends : ∀ {c : Char}, isSkipped c = true → glues c = false

namespace Takes

variable {α : Type} {scan : Scanner α} {IsToken : α → List Char → Prop} {glues : Char → Bool}

/-- A token after a gap is taken. -/
theorem scan_append (h : Takes scan IsToken glues) {gap token rest : List Char} {a : α}
    (hgap : IsGap gap) (htoken : IsToken a token) (hrest : startsWith glues rest = false) :
    scan (gap ++ (token ++ rest)) = .ok (a, rest) := by
  refine h.ok_iff.2 ⟨token, htoken, ?_, hrest⟩
  rw [skip_append hgap, skip_append_of_isSolid (h.isSolid htoken)]

/-- Only a token after a gap is taken. -/
theorem exists_of_ok (h : Takes scan IsToken glues) {text rest : List Char} {a : α}
    (hscan : scan text = .ok (a, rest)) :
    ∃ gap token, IsGap gap ∧ IsToken a token ∧ text = gap ++ (token ++ rest) ∧
      startsWith glues rest = false := by
  obtain ⟨token, htoken, hskip, hrest⟩ := h.ok_iff.1 hscan
  obtain ⟨gap, hgap, htext⟩ := exists_gap_append_skip text
  exact ⟨gap, token, hgap, htoken, hskip ▸ htext, hrest⟩

end Takes

/-! ### Identifiers, labels and fixed words -/

/-- The longest identifier at the front of a text is the one that no identifier character
follows. -/
theorem identifier?_eq_some_iff {text rest : List Char} {name : String} :
    identifier? text = some (name, rest) ↔
      IsIdentifier name.toList ∧ text = name.toList ++ rest ∧
        startsWith isIdentChar rest = false := by
  cases text with
  | nil =>
    refine ⟨(nomatch ·), fun ⟨hname, htext, _⟩ ↦ ?_⟩
    exact absurd (List.append_eq_nil_iff.1 htext.symm).1 hname.ne_nil
  | cons c tail =>
    rw [identifier?]
    constructor
    · intro h
      split at h
      next hc =>
        simp only [Option.some.injEq, Prod.mk.injEq] at h
        obtain ⟨rfl, rfl⟩ := h
        refine ⟨?_, by simp, startsWith_dropWhile isIdentChar tail⟩
        rw [String.toList_ofList]
        exact ⟨hc, fun d hd ↦ List.mem_takeWhile_imp hd⟩
      next => exact nomatch h
    · rintro ⟨hname, htext, hrest⟩
      rcases hlist : name.toList with - | ⟨d, run⟩
      · exact absurd hlist hname.ne_nil
      · rw [hlist, List.cons_append] at htext
        rw [hlist] at hname
        obtain ⟨rfl, rfl⟩ := List.cons.inj htext
        obtain ⟨htake, hdrop⟩ := span_append hname.2 hrest
        rw [if_pos hname.1, htake, hdrop, ← hlist, String.ofList_toList]

theorem takes_scanIdentifier (what : Expectation) :
    Takes (scanIdentifier what) (fun name token ↦ IsIdentifier token ∧ token = name.toList)
      isIdentChar where
  ok_iff {text name rest} := by
    have hscan : scanIdentifier what text = .ok (name, rest) ↔
        identifier? (skip text) = some (name, rest) := by
      rw [scanIdentifier]
      cases identifier? (skip text) with
      | none => exact ⟨(nomatch ·), (nomatch ·)⟩
      | some token => simp
    rw [hscan, identifier?_eq_some_iff]
    exact ⟨fun ⟨hname, htext, hrest⟩ ↦ ⟨_, ⟨hname, rfl⟩, htext, hrest⟩,
      fun ⟨_, ⟨hname, heq⟩, htext, hrest⟩ ↦ ⟨heq ▸ hname, heq ▸ htext, hrest⟩⟩
  isSolid h := h.1.isSolid
  ends := isIdentChar_of_isSkipped

theorem takes_scanLabel :
    Takes scanLabel (fun name token ↦ IsIdentifier name.toList ∧ token = name.toList ++ [':'])
      (fun _ ↦ false) where
  ok_iff {text name rest} := by
    have hscan : scanLabel text = .ok (name, rest) ↔
        identifier? (skip text) = some (name, ':' :: rest) := by
      rw [scanLabel]
      split
      next h => simp [h]
      next hne h =>
        refine ⟨(nomatch ·), fun heq ↦ ?_⟩
        obtain ⟨-, hrest⟩ := Prod.mk.inj (Option.some.inj (h.symm.trans heq))
        exact (hne rest hrest).elim
      next h => exact ⟨(nomatch ·), fun heq ↦ nomatch h.symm.trans heq⟩
    -- the colon always ends the name, so nothing is left to ask about what follows
    have hcolon : isIdentChar ':' = false := by decide
    rw [hscan, identifier?_eq_some_iff, startsWith_cons]
    constructor
    · rintro ⟨hname, htext, -⟩
      exact ⟨_, ⟨hname, rfl⟩, by simp [htext], by cases rest <;> rfl⟩
    · rintro ⟨_, ⟨hname, rfl⟩, htext, -⟩
      exact ⟨hname, by simp [htext], hcolon⟩
  isSolid := by
    rintro name _ ⟨hname, rfl⟩
    exact hname.isSolid.append (by simp; decide)
  ends _ := rfl

theorem takes_scanKeyword (op : Opcode) :
    Takes (scanKeyword op) (fun _ token ↦ token = op.mnemonic.toList) isKeywordChar where
  ok_iff {text _ rest} := by
    rw [scanKeyword]
    constructor
    · intro h
      split at h
      next rest' hword =>
        have hskip := List.isPrefixOf?_eq_some_iff_append_eq.1 hword
        split at h
        · exact nomatch h
        next hends =>
          obtain rfl : rest' = rest := by simpa using h
          exact ⟨_, rfl, hskip.symm, by simpa using hends⟩
      · exact nomatch h
    · rintro ⟨_, rfl, hskip, hrest⟩
      rw [List.isPrefixOf?_eq_some_iff_append_eq.2 hskip.symm]
      simp [hrest]
  isSolid := by
    rintro _ _ rfl
    exact (isIdentifier_mnemonic op).isSolid
  ends := isKeywordChar_of_isSkipped

theorem length_name (r : Register) : r.name.toList.length = registerWidth := by
  cases r <;> rfl

theorem takes_scanRegister :
    Takes scanRegister (fun r token ↦ token = r.name.toList) isWordChar where
  ok_iff {text r rest} := by
    simp only [scanRegister]
    constructor
    · intro h
      split at h
      next r' hname =>
        split at h
        · exact nomatch h
        next hends =>
          obtain ⟨rfl, rfl⟩ := Prod.mk.inj (Except.ok.inj h)
          have htake := congrArg String.toList (Register.ofName?_eq_some_iff.1 hname)
          rw [String.toList_ofList] at htake
          refine ⟨_, rfl, ?_, by simpa using hends⟩
          rw [← htake, List.take_append_drop]
      · exact nomatch h
    · rintro ⟨_, rfl, hskip, hrest⟩
      -- all names have the same length, so the scanner looks at exactly this one
      have htake : (skip text).take registerWidth = r.name.toList := by
        rw [hskip, ← length_name r, List.take_left]
      have hdrop : (skip text).drop registerWidth = rest := by
        rw [hskip, ← length_name r, List.drop_left]
      simp [htake, hdrop, hrest]
  isSolid := by
    rintro r _ rfl
    exact (isIdentifier_name r).isSolid
  ends := isWordChar_of_isSkipped

/-! ### Literals -/

/-- A sign is taken off the front of a text with the characters that write it. -/
theorem exists_isSign_of_takeSign {text rest : List Char} {sign : Sign}
    (h : takeSign text = (sign, rest)) : ∃ mark, IsSign mark sign ∧ text = mark ++ rest := by
  unfold takeSign at h
  split at h
  all_goals
    obtain ⟨rfl, rfl⟩ := Prod.mk.inj h
  · exact ⟨_, .plus, rfl⟩
  · exact ⟨_, .minus, rfl⟩
  · exact ⟨_, .absent, rfl⟩

theorem takeSign_append {mark digits : List Char} {sign : Sign} (hmark : IsSign mark sign)
    (hdigits : startsWith Char.isDigit digits = true) :
    takeSign (mark ++ digits) = (sign, digits) := by
  cases hmark with
  | absent =>
    -- a digit is no sign, so nothing is taken off
    rw [List.nil_append]
    unfold takeSign
    split
    · simp at hdigits
    · simp at hdigits
    · rfl
  | plus => rfl
  | minus => rfl

/-- The characters before the digits of a literal are no blanks. -/
theorem IsSign.isBlank {mark : List Char} {sign : Sign} (h : IsSign mark sign) :
    ∀ c ∈ mark, Text.isBlank c = false := by
  cases h <;> simp <;> decide

/-- A sign, if one is written, and digits. How many there are and what they denote is left open. -/
structure IsNumeral (mark digits : List Char) : Prop where
  isSign : ∃ sign, IsSign mark sign
  isDigit : ∀ c ∈ digits, c.isDigit = true
  nonempty : digits ≠ []

namespace IsNumeral

variable {mark digits : List Char}

theorem isSolid (h : IsNumeral mark digits) : IsSolid (mark ++ digits) := by
  obtain ⟨sign, hsign⟩ := h.isSign
  refine ⟨fun c hc ↦ ?_, by simp [h.nonempty]⟩
  rcases List.mem_append.1 hc with hc | hc
  · exact hsign.isBlank c hc
  · exact isBlank_of_isIdentChar (isIdentChar_of_isDigit (h.isDigit c hc))

theorem startsWith_isDigit (h : IsNumeral mark digits) (rest : List Char) :
    startsWith Char.isDigit (digits ++ rest) = true := by
  rcases hlist : digits with - | ⟨c, tail⟩
  · exact absurd hlist h.nonempty
  · exact h.isDigit c (by simp [hlist])

end IsNumeral

namespace IsLiteral

variable {mark digits : List Char} {value : Int}

theorem isNumeral (h : IsLiteral mark digits value) : IsNumeral mark digits := by
  obtain ⟨sign, hsign, -⟩ := h.value_eq
  exact ⟨⟨sign, hsign⟩, h.isDigit, h.nonempty⟩

theorem isSolid (h : IsLiteral mark digits value) : IsSolid (mark ++ digits) :=
  h.isNumeral.isSolid

end IsLiteral

/-- The digits of a number end where a blank or the end is. -/
theorem startsWith_isDigit_of_isBlank {rest : List Char}
    (h : startsWith (!Text.isBlank ·) rest = false) : startsWith Char.isDigit rest = false := by
  cases rest with
  | nil => rfl
  | cons c rest =>
    rw [startsWith_cons, ← Bool.not_eq_true]
    intro hc
    simp [isBlank_of_isIdentChar (isIdentChar_of_isDigit hc)] at h

/-- When a number is scanned: digits stand behind the sign, a blank or the end behind the digits,
and the value that they give is one of 32 bits. -/
theorem scanInteger_eq_ok_iff {text unsigned rest : List Char} {sign : Sign} {value : Int}
    (hsign : takeSign (skip text) = (sign, unsigned)) :
    scanInteger text = .ok (value, rest) ↔
      unsigned.takeWhile Char.isDigit ≠ [] ∧ unsigned.dropWhile Char.isDigit = rest ∧
        startsWith (!Text.isBlank ·) rest = false ∧
        readDecimal sign (unsigned.takeWhile Char.isDigit) = .ok value ∧
        literalMin ≤ value ∧ value ≤ literalMax := by
  simp only [scanInteger, hsign]
  generalize unsigned.takeWhile Char.isDigit = digits
  generalize unsigned.dropWhile Char.isDigit = left
  split
  next hform =>
    refine ⟨(nomatch ·), ?_⟩
    rintro ⟨hne, rfl, hends, -⟩
    simp [hne, hends] at hform
  next hform =>
    simp only [Bool.or_eq_true, not_or, List.isEmpty_iff, Bool.not_eq_true] at hform
    cases readDecimal sign digits with
    | error e => simp
    | ok value' =>
      simp only [Except.ok.injEq]
      split
      next hrange =>
        rw [Except.ok.injEq, Prod.mk.injEq]
        constructor
        · rintro ⟨rfl, rfl⟩
          exact ⟨hform.1, rfl, hform.2, rfl, hrange⟩
        · rintro ⟨-, rfl, -, rfl, -⟩
          exact ⟨rfl, rfl⟩
      next hrange =>
        refine ⟨(nomatch ·), ?_⟩
        rintro ⟨-, -, -, rfl, hrange'⟩
        exact absurd hrange' hrange

theorem takes_scanInteger :
    Takes scanInteger
      (fun value token ↦ ∃ mark digits, IsLiteral mark digits value ∧ token = mark ++ digits)
      (!Text.isBlank ·) where
  ok_iff {text value rest} := by
    constructor
    · intro h
      rcases hsign : takeSign (skip text) with ⟨sign, unsigned⟩
      obtain ⟨mark, hmark, hskip⟩ := exists_isSign_of_takeSign hsign
      obtain ⟨hne, rfl, hends, hread, hmin, hmax⟩ := (scanInteger_eq_ok_iff hsign).1 h
      obtain ⟨hlength, hvalue⟩ := readDecimal_eq_ok_iff.1 hread
      have hliteral : IsLiteral mark (unsigned.takeWhile Char.isDigit) value :=
        ⟨fun _ hc ↦ List.mem_takeWhile_imp hc, hne, hlength, ⟨sign, hmark, hvalue.symm⟩, hmin, hmax⟩
      refine ⟨_, ⟨mark, _, hliteral, rfl⟩, ?_, hends⟩
      rw [hskip, List.append_assoc, List.takeWhile_append_dropWhile]
    · rintro ⟨_, ⟨mark, digits, hliteral, rfl⟩, hskip, hrest⟩
      obtain ⟨sign, hmark, hvalue⟩ := hliteral.value_eq
      have hsign : takeSign (skip text) = (sign, digits ++ rest) := by
        rw [hskip, List.append_assoc]
        exact takeSign_append hmark (hliteral.isNumeral.startsWith_isDigit rest)
      have hread : readDecimal sign digits = .ok value :=
        readDecimal_eq_ok_iff.2 ⟨hliteral.length_le, hvalue.symm⟩
      -- a character that ends the number is a blank, so the run of digits ends there too
      obtain ⟨htake, hdrop⟩ :=
        span_append hliteral.isDigit (startsWith_isDigit_of_isBlank hrest)
      rw [scanInteger_eq_ok_iff hsign, htake]
      exact ⟨hliteral.nonempty, hdrop, hrest, hread, hliteral.min_le, hliteral.le_max⟩
  isSolid := by
    rintro value _ ⟨mark, digits, hliteral, rfl⟩
    exact hliteral.isSolid
  ends h := by simp [isBlank_of_isSkipped h]

/-! ### The end -/

/-- Only a gap may be left at the end. -/
theorem scanEnd_eq_ok_iff {text : List Char} {token : Unit × List Char} :
    scanEnd text = .ok token ↔ IsGap text ∧ token = ((), []) := by
  have hskip : skip text = [] ↔ IsGap text := List.dropWhile_eq_nil_iff
  rw [scanEnd, ← hskip]
  cases skip text with
  | nil => simp [eq_comm]
  | cons c rest => simp [stopAt]

end RegisterMachine.Source
