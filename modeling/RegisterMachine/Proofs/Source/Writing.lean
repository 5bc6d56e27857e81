import RegisterMachine.Proofs.Source.Language
import RegisterMachine.Proofs.Text.Lines

/-!
# Written instructions

An instruction made by hand may carry any text as a label, jump to any text and move any number.
**Well-formed** are those whose label and target are identifiers and whose number has 32 bits. They
are the instructions that lines can spell at all (`Spells.isWellFormed`), and how they are written
is one of the spellings (`Instruction.IsWellFormed.exists_write`), on one line.
-/

namespace RegisterMachine

open Source Text

/-! ### Well-formed instructions -/

/-- The target is an identifier, the number has 32 bits, and the opcode is settled. -/
def Operation.IsWellFormed : Operation → Prop
  | .arithmetic _ _ _ => True
  | .mov _ value => literalMin ≤ value ∧ value ≤ literalMax
  | .out _ => True
  | .jnz _ target => IsIdentifier target.toList
  | .draft _ => False

/-- The label, if there is one, is an identifier, and the operation is well-formed. -/
structure Instruction.IsWellFormed (i : Instruction) : Prop where
  label : ∀ label, i.label? = some label → IsIdentifier label.toList
  operation : i.operation.IsWellFormed

namespace Source

theorem SpellsOperation.isWellFormed {operation : Operation} {text : List Char}
    (h : SpellsOperation operation text) : operation.IsWellFormed := by
  cases h with
  | arithmetic => trivial
  | mov _ _ hliteral => exact ⟨hliteral.min_le, hliteral.le_max⟩
  | out => trivial
  | jnz _ _ htarget => exact htarget

/-- **Only well-formed instructions are spelled.** -/
theorem Spells.isWellFormed {i : Instruction} {text : List Char} (h : Spells i text) :
    i.IsWellFormed := by
  cases h with
  | unlabelled h => exact ⟨fun _ hlabel ↦ (nomatch hlabel), h.isWellFormed⟩
  | labelled hname _ h =>
    refine ⟨?_, h.isWellFormed⟩
    rintro _ ⟨⟩
    exact hname

theorem Spells.ne_nil {i : Instruction} {text : List Char} (h : Spells i text) : text ≠ [] := by
  cases h with
  | unlabelled h =>
    obtain ⟨front, last, hlast, rfl⟩ := h.exists_last
    simp [hlast.nonempty]
  | labelled => simp

end Source

/-! ### Written numbers -/

/-- The numbers that can be written are those without too many digits. -/
theorem lt_digitBound_iff {n : Nat} :
    n < digitBound ↔ (Nat.toDigits 10 n).length ≤ digitLimit := by
  rw [Nat.length_toDigits_le_iff (by decide) (by decide)]
  unfold digitBound
  -- the power is too large to be computed, and the same for every limit
  generalize digitLimit = limit
  rfl

/-- A number of 32 bits is far from too long. -/
theorem natAbs_lt_digitBound {value : Int} (hmin : literalMin ≤ value) (hmax : value ≤ literalMax) :
    value.natAbs < digitBound := by
  unfold literalMin at hmin
  unfold literalMax at hmax
  have hten : (Nat.toDigits 10 value.natAbs).length ≤ 10 := by
    rw [Nat.length_toDigits_le_iff (by decide) (by decide)]
    omega
  exact lt_digitBound_iff.2 (Nat.le_trans hten (by decide))

/-- The decimal text of a number of 32 bits is a literal for it. -/
theorem exists_isLiteral_decimal {value : Int} (hmin : literalMin ≤ value)
    (hmax : value ≤ literalMax) :
    ∃ mark digits, (decimal value).toList = mark ++ digits ∧ IsLiteral mark digits value := by
  have hlength : (Nat.toDigits 10 value.natAbs).length ≤ digitLimit :=
    lt_digitBound_iff.1 (natAbs_lt_digitBound hmin hmax)
  have hliteral : ∀ {mark sign}, IsSign mark sign → value = sign.apply value.natAbs →
      IsLiteral mark (Nat.toDigits 10 value.natAbs) value := by
    intro mark sign hmark hvalue
    refine ⟨fun c hc ↦ ?_, Nat.toDigits_ne_nil, hlength, ⟨sign, hmark, ?_⟩, hmin, hmax⟩
    · exact Nat.isDigit_of_mem_toDigits (by decide) (by decide) hc
    · rwa [Nat.ofDigitChars_ten_toDigits]
  rw [decimal]
  split
  next hneg =>
    refine ⟨['-'], _, ?_, hliteral .minus ?_⟩
    · rw [String.toList_append, Nat.toList_repr]
      rfl
    · show value = -(value.natAbs : Int)
      omega
  next hneg =>
    refine ⟨[], _, Nat.toList_repr, hliteral .absent ?_⟩
    show value = (value.natAbs : Int)
    omega

/-! ### Written instructions -/

theorem isSpacing_space : IsSpacing [' '] := ⟨by simp [IsGap, isSkipped], by simp⟩

/-- **A well-formed operation is written as one of its spellings**, on one line. -/
theorem Operation.IsWellFormed.exists_write {operation : Operation}
    (h : operation.IsWellFormed) :
    ∃ text, operation.write = .ok text ∧ SpellsOperation operation text.toList ∧
      IsInline text.toList := by
  have hspace : IsInline " ".toList := by decide
  have hname : ∀ r : Register, IsInline r.name.toList :=
    fun r ↦ (isIdentifier_name r).isSolid.isInline
  cases operation with
  | arithmetic op result source =>
    have hop : IsInline op.mnemonic.toList :=
      (isIdentifier_mnemonic (.arithmetic op)).isSolid.isInline
    refine ⟨_, rfl, ?_, ?_⟩
    · simpa using SpellsOperation.arithmetic isSpacing_space isSpacing_space
    · simp only [String.toList_append]
      exact (((hop.append hspace).append (hname result)).append hspace).append (hname source)
  | mov result value =>
    obtain ⟨hmin, hmax⟩ := h
    obtain ⟨mark, digits, hdecimal, hliteral⟩ := exists_isLiteral_decimal hmin hmax
    refine ⟨"mov " ++ result.name ++ " " ++ decimal value, ?_, ?_, ?_⟩
    · rw [write, writeDecimal, if_pos (natAbs_lt_digitBound hmin hmax)]
    · have hspells : SpellsOperation (.mov result value) _ :=
        .mov isSpacing_space isSpacing_space.isGap hliteral (by simp)
      simpa [hdecimal] using hspells
    · have hmov : IsInline "mov ".toList := by decide
      simp only [String.toList_append, hdecimal]
      exact ((hmov.append (hname result)).append hspace).append hliteral.isSolid.isInline
  | out source =>
    have hout : IsInline "out ".toList := by decide
    refine ⟨_, rfl, ?_, ?_⟩
    · simpa using SpellsOperation.out isSpacing_space
    · simp only [String.toList_append]
      exact hout.append (hname source)
  | jnz source target =>
    have hjnz : IsInline "jnz ".toList := by decide
    refine ⟨_, rfl, ?_, ?_⟩
    · simpa using SpellsOperation.jnz isSpacing_space isSpacing_space h
    · simp only [String.toList_append]
      exact ((hjnz.append (hname source)).append hspace).append (IsIdentifier.isSolid h).isInline
  | draft kind => exact h.elim

/-- **A well-formed instruction is written as one of its spellings**, on one line. -/
theorem Instruction.IsWellFormed.exists_write {i : Instruction} (h : i.IsWellFormed) :
    ∃ text, i.write = .ok text ∧ Spells i text.toList ∧ IsInline text.toList := by
  obtain ⟨body, hwrite, hspells, hinline⟩ := h.operation.exists_write
  obtain ⟨label?, operation⟩ := i
  cases label? with
  | none =>
    refine ⟨body, ?_, .unlabelled hspells, hinline⟩
    rw [write, hwrite]
    rfl
  | some label =>
    have hlabel : IsIdentifier label.toList := h.label label rfl
    have hcolon : IsInline ": ".toList := by decide
    refine ⟨label ++ ": " ++ body, ?_, ?_, ?_⟩
    · rw [write, hwrite]
      rfl
    · simpa using Spells.labelled hlabel isSpacing_space hspells
    · simp only [String.toList_append]
      exact (hlabel.isSolid.isInline.append hcolon).append hinline

end RegisterMachine
