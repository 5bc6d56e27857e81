import RegisterMachine.Proofs.Source.Grammar

/-!
# Characters of gaps and tokens

The classes of characters that end a token are defined in different terms: an identifier ends by a
rule about ASCII, the name of a register by one about the word characters of every script, a
number by one about blanks. What the grammar needs of them is the same each time: **a gap
character always ends a token, and an identifier character is never a blank**. All of it follows
from where the identifier characters lie (`isIdentChar_iff`).
-/

namespace RegisterMachine.Source

open Text

/-! ### Where the characters lie -/

theorem isSkipped_iff {c : Char} :
    isSkipped c = true ↔ c = ' ' ∨ c = '\t' ∨ c = '\n' ∨ c = '\r' := by
  simp [isSkipped, or_assoc]

/-- The identifier characters by their codes. -/
theorem isIdentChar_iff {c : Char} :
    isIdentChar c = true ↔ (48 ≤ c.toNat ∧ c.toNat ≤ 57) ∨ (65 ≤ c.toNat ∧ c.toNat ≤ 90) ∨
      c.toNat = 95 ∨ (97 ≤ c.toNat ∧ c.toNat ≤ 122) := by
  have hunderscore : c = '_' ↔ c.toNat = 95 :=
    ⟨fun h ↦ h ▸ rfl, fun h ↦ Char.toNat_inj.1 h⟩
  have halpha : c.isAlpha =
      (decide (c.val ≥ 65 ∧ c.val ≤ 90) || decide (c.val ≥ 97) && decide (c.val ≤ 122)) := rfl
  simp only [isIdentChar, Char.isAlphanum, halpha, Char.isDigit, Bool.or_eq_true,
    Bool.and_eq_true, decide_eq_true_eq, beq_iff_eq, hunderscore, ge_iff_le,
    UInt32.le_iff_toNat_le]
  show (((65 ≤ c.toNat ∧ c.toNat ≤ 90) ∨ (97 ≤ c.toNat ∧ c.toNat ≤ 122)) ∨
    (48 ≤ c.toNat ∧ c.toNat ≤ 57)) ∨ c.toNat = 95 ↔ _
  omega

theorem isIdentChar_of_isIdentStart {c : Char} (h : isIdentStart c = true) :
    isIdentChar c = true := by
  simp only [isIdentStart, isIdentChar, Char.isAlphanum, Bool.or_eq_true] at h ⊢
  exact h.imp_left Or.inl

theorem isIdentChar_of_isDigit {c : Char} (h : c.isDigit = true) : isIdentChar c = true := by
  simp [isIdentChar, Char.isAlphanum, h]

/-! ### What ends a token -/

theorem isBlank_of_isSkipped {c : Char} (h : isSkipped c = true) : isBlank c = true := by
  rcases isSkipped_iff.1 h with rfl | rfl | rfl | rfl <;> decide

theorem isBlank_of_isIdentChar {c : Char} (h : isIdentChar c = true) : isBlank c = false := by
  have hc := isIdentChar_iff.1 h
  simp only [isBlank, Bool.or_eq_false_iff, Bool.and_eq_false_iff, decide_eq_false_iff_not,
    beq_eq_false_iff_ne, Nat.not_le]
  omega

theorem isSkipped_of_isBlank_eq_false {c : Char} (h : isBlank c = false) : isSkipped c = false := by
  rw [← Bool.not_eq_true] at h ⊢
  exact fun hs ↦ h (isBlank_of_isSkipped hs)

/-- A gap character is no part of an identifier. -/
theorem isIdentChar_of_isSkipped {c : Char} (h : isSkipped c = true) : isIdentChar c = false := by
  rcases isSkipped_iff.1 h with rfl | rfl | rfl | rfl <;> decide

theorem isKeywordChar_of_isSkipped {c : Char} (h : isSkipped c = true) :
    isKeywordChar c = false := by
  rcases isSkipped_iff.1 h with rfl | rfl | rfl | rfl <;> decide

theorem isWordChar_of_isSkipped {c : Char} (h : isSkipped c = true) : isWordChar c = false := by
  rcases isSkipped_iff.1 h with rfl | rfl | rfl | rfl <;> decide

theorem isKeywordChar_of_isIdentChar {c : Char} (h : isIdentChar c = true) :
    isKeywordChar c = true := by
  simp [isKeywordChar, h]

/-- An identifier character is a word character: they are all in ASCII. -/
theorem isWordChar_of_isIdentChar {c : Char} (h : isIdentChar c = true) : isWordChar c = true := by
  have hlt : c.toNat < 0x80 := by
    have hc := isIdentChar_iff.1 h
    omega
  rw [isWordChar_of_lt hlt]
  exact h

/-! ### Identifiers -/

instance (text : List Char) : Decidable (IsIdentifier text) :=
  match text with
  | [] => .isFalse id
  | c :: rest =>
    -- the search is over the text: there is also an instance that goes over all characters
    @instDecidableAnd (isIdentStart c = true) _ _ (List.decidableBAll (isIdentChar · = true) rest)

namespace IsIdentifier

theorem ne_nil {text : List Char} (h : IsIdentifier text) : text ≠ [] := by
  rintro rfl
  exact h

theorem isIdentChar {text : List Char} (h : IsIdentifier text) :
    ∀ c ∈ text, Source.isIdentChar c = true := by
  cases text with
  | nil => exact h.elim
  | cons c rest =>
    rintro d (_ | ⟨_, hd⟩)
    · exact isIdentChar_of_isIdentStart h.1
    · exact h.2 d hd

theorem isBlank {text : List Char} (h : IsIdentifier text) :
    ∀ c ∈ text, Text.isBlank c = false :=
  fun c hc ↦ isBlank_of_isIdentChar (h.isIdentChar c hc)

end IsIdentifier

/-- The word for an opcode is an identifier. -/
theorem isIdentifier_mnemonic (op : Opcode) : IsIdentifier op.mnemonic.toList := by
  rcases op with op | _ | _ | _
  · cases op <;> simp [Opcode.mnemonic, Arithmetic.mnemonic, IsIdentifier] <;> decide
  all_goals simp [Opcode.mnemonic, IsIdentifier]; decide

/-- The name of a register is an identifier. -/
theorem isIdentifier_name (r : Register) : IsIdentifier r.name.toList := by
  cases r <;> simp [Register.name, IsIdentifier] <;> decide

end RegisterMachine.Source
