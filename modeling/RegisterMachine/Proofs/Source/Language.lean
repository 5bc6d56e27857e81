import RegisterMachine.Proofs.Source.Spelling
import RegisterMachine.Source.Line

/-!
# The accepted lines

Reading a line gives an instruction exactly when the line, freed of the blanks around it, spells
that instruction and does not carry a label that is bound already
(`readLine_eq_instruction_iff`).

Two readers decide together about a line. The words of the line, by the blanks of every script,
give the opcode; the scanners, which skip only four characters, then go over the whole text again.
The proof keeps them apart.

* The scanners alone put no condition on the gap after a label. That it is not empty is what the
  words add: were it empty, label and opcode would be one word, and no opcode has a colon
  (`not_dropLabelWord_touching`).
* The scanners alone allow a gap before the first token and after the last. That both are empty is
  what freeing the line of the blanks around it adds (`spells_of_readStatement`).
-/

namespace RegisterMachine.Source

open Text

/-! ### The opcode among the words -/

/-- A solid run in front of a gap is a word. -/
theorem words_append_spacing {token gap : List Char} (htoken : IsSolid token)
    (hgap : IsSpacing gap) (rest : List Char) :
    words (token ++ (gap ++ rest)) = token :: words rest := by
  obtain ⟨hgap, hne⟩ := hgap
  have hblank : ∀ c ∈ gap, isBlank c = true := fun c hc ↦ isBlank_of_isSkipped (hgap c hc)
  rw [words_append_of_isSolid htoken, words_append_of_isBlank hblank]
  cases gap with
  | nil => exact absurd rfl hne
  | cons c gap =>
    rintro d ⟨⟩
    exact hblank c List.mem_cons_self

/-- A word that ends with an identifier is not taken for a label. -/
theorem dropLabelWord_append (front : List Char) {token : List Char} (htoken : IsIdentifier token)
    (others : List (List Char)) :
    dropLabelWord ((front ++ token) :: others) = (front ++ token) :: others := by
  rw [dropLabelWord, if_neg]
  intro hlast
  rw [List.getLast?_append_of_ne_nil _ htoken.ne_nil] at hlast
  have hcolon := htoken.isIdentChar ':' (List.mem_of_getLast? hlast)
  exact absurd hcolon (by decide)

/-- An opcode at the front of a text is seen by the words. -/
theorem dropLabelWord_words_opcode (op : Opcode) {before : List Char} (hbefore : IsSpacing before)
    (rest : List Char) :
    dropLabelWord (words (op.mnemonic.toList ++ (before ++ rest))) =
      op.mnemonic.toList :: words rest := by
  rw [words_append_spacing (isIdentifier_mnemonic op).isSolid hbefore]
  exact dropLabelWord_append [] (isIdentifier_mnemonic op) _

/-- An opcode after a label and a gap is seen by the words. -/
theorem dropLabelWord_words_label {label : String} {gap : List Char}
    (hlabel : IsIdentifier label.toList) (hgap : IsSpacing gap) (op : Opcode) {before : List Char}
    (hbefore : IsSpacing before) (rest : List Char) :
    dropLabelWord (words
        (label.toList ++ ':' :: (gap ++ (op.mnemonic.toList ++ (before ++ rest))))) =
      op.mnemonic.toList :: words rest := by
  have hcolon : IsSolid (label.toList ++ [':']) := hlabel.isSolid.append (by simp; decide)
  rw [List.append_cons, words_append_spacing hcolon hgap,
    words_append_spacing (isIdentifier_mnemonic op).isSolid hbefore, dropLabelWord,
    if_pos (by simp)]

theorem Spells.dropLabelWord_words {i : Instruction} {text : List Char} (h : Spells i text) :
    ∃ op others, i.operation.opcode? = some op ∧
      dropLabelWord (words text) = op.mnemonic.toList :: others := by
  cases h with
  | unlabelled h =>
    obtain ⟨op, before, rest, hop, hbefore, rfl⟩ := h.exists_head
    exact ⟨op, words rest, hop, dropLabelWord_words_opcode op hbefore rest⟩
  | @labelled label operation gap text hlabel hgap h =>
    obtain ⟨op, before, rest, hop, hbefore, rfl⟩ := h.exists_head
    exact ⟨op, words rest, hop, dropLabelWord_words_label hlabel hgap op hbefore rest⟩

/-- **A label that touches its opcode is not seen by the words**: the two are one word, which is no
opcode. -/
theorem not_dropLabelWord_touching {label : String} (hlabel : IsIdentifier label.toList)
    (op' : Opcode) {before : List Char} (hbefore : IsSpacing before) (rest : List Char)
    (op : Opcode) (others : List (List Char)) :
    dropLabelWord (words (label.toList ++ ':' :: (op'.mnemonic.toList ++ (before ++ rest)))) ≠
      op.mnemonic.toList :: others := by
  intro hwords
  have hmnemonic := isIdentifier_mnemonic op'
  have hsolid : IsSolid (label.toList ++ ':' :: op'.mnemonic.toList) :=
    hlabel.isSolid.append (List.forall_mem_cons.2 ⟨by decide, hmnemonic.isBlank⟩)
  rw [← List.cons_append, ← List.append_assoc, words_append_spacing hsolid hbefore,
    List.append_cons, dropLabelWord_append _ hmnemonic] at hwords
  obtain ⟨hword, -⟩ := List.cons.inj hwords
  have hcolon := (isIdentifier_mnemonic op).isIdentChar ':' (by simp [← hword])
  exact absurd hcolon (by decide)

/-! ### The ends of a line -/

/-- Every operation ends with a token. -/
theorem SpellsOperation.exists_last {operation : Operation} {text : List Char}
    (h : SpellsOperation operation text) :
    ∃ front last, IsSolid last ∧ text = front ++ last := by
  cases h with
  | @arithmetic op result source =>
    exact ⟨_, _, (isIdentifier_name source).isSolid, by simp only [← List.append_assoc]; rfl⟩
  | mov _ _ hliteral =>
    exact ⟨_, _, hliteral.isSolid, by simp only [← List.append_assoc]; rfl⟩
  | @out source =>
    exact ⟨_, _, (isIdentifier_name source).isSolid, by simp only [← List.append_assoc]; rfl⟩
  | jnz _ _ htarget =>
    exact ⟨_, _, htarget.isSolid, by simp only [← List.append_assoc]; rfl⟩

/-- A text that starts and ends with a solid run has no blanks at its ends. -/
theorem isTrimmed_of_isSolid {first back front last : List Char} (hfirst : IsSolid first)
    (hlast : IsSolid last) (h : first ++ back = front ++ last) : IsTrimmed (first ++ back) where
  head c hc := by
    rw [List.head?_append_of_ne_nil _ hfirst.nonempty] at hc
    exact hfirst.isBlank c (List.mem_of_mem_head? hc)
  getLast c hc := by
    rw [h, List.getLast?_append_of_ne_nil _ hlast.nonempty] at hc
    exact hlast.isBlank c (List.mem_of_getLast? hc)

theorem Spells.isTrimmed {i : Instruction} {text : List Char} (h : Spells i text) :
    IsTrimmed text := by
  cases h with
  | unlabelled h =>
    obtain ⟨front, last, hlast, htext⟩ := h.exists_last
    obtain ⟨op, before, rest, -, -, rfl⟩ := h.exists_head
    exact isTrimmed_of_isSolid (isIdentifier_mnemonic op).isSolid hlast htext
  | @labelled label operation gap text hname _ h =>
    obtain ⟨front, last, hlast, rfl⟩ := h.exists_last
    have htext : label.toList ++ ':' :: (gap ++ (front ++ last)) =
        (label.toList ++ ':' :: (gap ++ front)) ++ last := by simp
    exact isTrimmed_of_isSolid hname.isSolid hlast htext

/-- A gap at the front of a trimmed text is empty. -/
theorem IsGap.eq_nil_of_isTrimmed_left {gap rest : List Char} (hgap : IsGap gap)
    (h : IsTrimmed (gap ++ rest)) : gap = [] :=
  h.eq_nil_left fun c hc ↦ isBlank_of_isSkipped (hgap c hc)

/-- A gap at the end of a trimmed text is empty. -/
theorem IsGap.eq_nil_of_isTrimmed_right {gap rest : List Char} (hgap : IsGap gap)
    (h : IsTrimmed (rest ++ gap)) : gap = [] := by
  by_contra hne
  have hlast := h.getLast (gap.getLast hne) (by
    rw [List.getLast?_append_of_ne_nil _ hne, List.getLast?_eq_getLast_of_ne_nil hne]
    rfl)
  rw [isBlank_of_isSkipped (hgap _ (List.getLast_mem hne))] at hlast
  exact nomatch hlast

/-- **A trimmed text that is read as a statement spells it**, provided that its words show the
opcode. -/
theorem spells_of_readStatement {op : Opcode} {text : List Char} {label? : Option String}
    {operation : Operation} {others : List (List Char)} (htrimmed : IsTrimmed text)
    (hwords : dropLabelWord (words text) = op.mnemonic.toList :: others)
    (hread : readStatement op text = .ok ⟨label?, operation⟩) :
    Spells ⟨label?, operation⟩ text := by
  obtain ⟨rest, hscan, hrest⟩ := readStatement_eq_ok_iff.1 hread
  obtain ⟨middle, hoptional, hoperation⟩ := scanStatement_eq_ok_iff.1 hscan
  obtain ⟨gap, body, hgap, rfl, hbody⟩ := exists_spelling_of_scanOperation hoperation
  rcases scanOptionalLabel_eq_iff.1 hoptional with ⟨label, rfl, hlabel⟩ | ⟨rfl, rfl, -⟩
  · obtain ⟨front, _, hfront, ⟨hname, rfl⟩, rfl, -⟩ := takes_scanLabel.exists_of_ok hlabel
    obtain rfl := hfront.eq_nil_of_isTrimmed_left htrimmed
    simp only [List.nil_append, ← List.append_assoc] at htrimmed
    obtain rfl := hrest.eq_nil_of_isTrimmed_right htrimmed
    simp only [List.nil_append, List.append_nil, ← List.append_cons] at hwords ⊢
    refine .labelled hname ⟨hgap, ?_⟩ hbody
    -- the scanners would let label and opcode touch, the words do not
    rintro rfl
    obtain ⟨op', before, left, -, hbefore, rfl⟩ := hbody.exists_head
    exact not_dropLabelWord_touching hname op' hbefore left op others hwords
  · obtain rfl := hgap.eq_nil_of_isTrimmed_left htrimmed
    rw [List.nil_append] at htrimmed ⊢
    obtain rfl := hrest.eq_nil_of_isTrimmed_right htrimmed
    rw [List.append_nil]
    exact .unlabelled hbody

/-! ### Lines -/

theorem checkLabel_of_none {labels : LabelTable} {i : Instruction} (h : i.label? = none) :
    checkLabel labels i = .instruction i := by
  rw [checkLabel, h]

theorem checkLabel_of_some {labels : LabelTable} {i : Instruction} {label : String}
    (h : i.label? = some label) :
    checkLabel labels i =
      if labels.contains label then .defect (.duplicateLabel label) else .instruction i := by
  rw [checkLabel, h]

/-- A label is refused exactly when it is bound. -/
theorem checkLabel_eq_instruction_iff {labels : LabelTable} {i j : Instruction} :
    checkLabel labels j = .instruction i ↔
      j = i ∧ ∀ label, i.label? = some label → labels.contains label = false := by
  cases hlabel : j.label? with
  | none =>
    rw [checkLabel_of_none hlabel, Reading.instruction.injEq]
    refine ⟨?_, And.left⟩
    rintro rfl
    exact ⟨rfl, fun label h ↦ nomatch hlabel.symm.trans h⟩
  | some label =>
    rw [checkLabel_of_some hlabel]
    cases hbound : labels.contains label with
    | true =>
      refine ⟨(nomatch ·), ?_⟩
      rintro ⟨rfl, hfree⟩
      exact nomatch hbound.symm.trans (hfree label hlabel)
    | false =>
      rw [if_neg (by simp), Reading.instruction.injEq]
      refine ⟨?_, And.left⟩
      rintro rfl
      refine ⟨rfl, fun label' h ↦ ?_⟩
      obtain rfl := Option.some.inj (hlabel.symm.trans h)
      exact hbound

/-- While no label is bound, none is refused. -/
theorem checkLabel_empty (i : Instruction) : checkLabel .empty i = .instruction i :=
  checkLabel_eq_instruction_iff.2 ⟨rfl, fun _ _ ↦ rfl⟩

/-- The instruction of a line is that of the statement which the line is, unless its label is
bound. -/
theorem readWith_eq_instruction_iff {op : Opcode} {labels : LabelTable} {text : List Char}
    {i : Instruction} :
    readWith op labels text = .ok (.instruction i) ↔
      readStatement op text = .ok ⟨i.label?, i.operation⟩ ∧
        ∀ label, i.label? = some label → labels.contains label = false := by
  rw [readWith]
  cases readStatement op text with
  | ok statement =>
    rw [Except.ok.injEq, checkLabel_eq_instruction_iff, Except.ok.injEq]
    refine and_congr_left fun _ ↦ ?_
    obtain ⟨label?, operation⟩ := i
    obtain ⟨label?', operation'⟩ := statement
    simp [Statement.instruction]
  | error e => cases e <;> simp

/-- A line in which the words show an opcode is read with it. -/
theorem readLine_eq_readWith {labels : LabelTable} {line : String} {op : Opcode}
    {others : List (List Char)}
    (h : dropLabelWord (words (strip line.toList)) = op.mnemonic.toList :: others) :
    readLine labels line = readWith op labels (expandTabs (strip line.toList)) := by
  have hne : ¬(strip line.toList).isEmpty = true := by
    intro hnil
    rw [List.isEmpty_iff.1 hnil] at h
    exact nomatch h
  simp only [readLine, if_neg hne, h, String.ofList_toList, Opcode.ofMnemonic?_mnemonic]

/-- **How a line is read**: with the opcode that its words show; if they show none, the line is
blank or defective. -/
theorem readLine_cases (labels : LabelTable) (line : String) :
    (∃ op others, dropLabelWord (words (strip line.toList)) = op.mnemonic.toList :: others ∧
      readLine labels line = readWith op labels (expandTabs (strip line.toList))) ∨
    strip line.toList = [] ∧ readLine labels line = .ok .blank ∨
    ∃ d, readLine labels line = .ok (.defect d) := by
  by_cases hnil : (strip line.toList).isEmpty = true
  · exact .inr (.inl ⟨List.isEmpty_iff.1 hnil, by rw [readLine, if_pos hnil]⟩)
  · rcases hwords : dropLabelWord (words (strip line.toList)) with - | ⟨word, others⟩
    · exact .inr (.inr ⟨_, by simp only [readLine, if_neg hnil, hwords]; rfl⟩)
    · cases hop : Opcode.ofMnemonic? (String.ofList word) with
      | none => exact .inr (.inr ⟨_, by simp only [readLine, if_neg hnil, hwords, hop]; rfl⟩)
      | some op =>
        have hword : word = op.mnemonic.toList := by
          rw [← Opcode.ofMnemonic?_eq_some_iff.1 hop, String.toList_ofList]
        rw [hword] at hwords ⊢
        exact .inl ⟨op, others, rfl, readLine_eq_readWith hwords⟩

/-- The words choose the opcode, and the scanners read the text with it. -/
theorem readLine_eq_instruction_iff_readStatement {labels : LabelTable} {line : String}
    {i : Instruction} :
    readLine labels line = .ok (.instruction i) ↔
      (∃ op others, dropLabelWord (words (strip line.toList)) = op.mnemonic.toList :: others ∧
        readStatement op (strip line.toList) = .ok ⟨i.label?, i.operation⟩) ∧
      ∀ label, i.label? = some label → labels.contains label = false := by
  constructor
  · intro hread
    rcases readLine_cases labels line with ⟨op, others, hwords, hwith⟩ | ⟨-, hblank⟩ | ⟨d, hdefect⟩
    · rw [hwith, readWith_eq_instruction_iff, readStatement_expandTabs] at hread
      exact ⟨⟨op, others, hwords, hread.1⟩, hread.2⟩
    · cases hblank.symm.trans hread
    · cases hdefect.symm.trans hread
  · rintro ⟨⟨op, others, hwords, hread⟩, hfree⟩
    rw [readLine_eq_readWith hwords, readWith_eq_instruction_iff, readStatement_expandTabs]
    exact ⟨hread, hfree⟩

/-- A line is spelled as the instruction that reading gives, and its label was free. -/
theorem spells_of_readLine {labels : LabelTable} {line : String} {i : Instruction}
    (h : readLine labels line = .ok (.instruction i)) :
    Spells i (strip line.toList) ∧
      ∀ label, i.label? = some label → labels.contains label = false := by
  obtain ⟨⟨op, others, hwords, hread⟩, hfree⟩ := readLine_eq_instruction_iff_readStatement.1 h
  exact ⟨spells_of_readStatement (isTrimmed_strip _) hwords hread, hfree⟩

/-- A line that spells an instruction is read as this instruction, if its label is free. -/
theorem Spells.readLine_eq {labels : LabelTable} {line : String} {i : Instruction}
    (h : Spells i (strip line.toList))
    (hfree : ∀ label, i.label? = some label → labels.contains label = false) :
    readLine labels line = .ok (.instruction i) := by
  obtain ⟨op, others, hop, hwords⟩ := h.dropLabelWord_words
  obtain ⟨op', hop', hread⟩ := h.readStatement
  obtain rfl := Option.some.inj (hop.symm.trans hop')
  exact readLine_eq_instruction_iff_readStatement.2 ⟨⟨op, others, hwords, hread⟩, hfree⟩

/-- **The accepted lines.** Reading a line gives an instruction exactly when the line, freed of the
blanks around it, spells this instruction and its label, if it has one, is not bound yet. -/
theorem readLine_eq_instruction_iff (labels : LabelTable) (line : String) (i : Instruction) :
    readLine labels line = .ok (.instruction i) ↔
      Spells i (strip line.toList) ∧
        ∀ label, i.label? = some label → labels.contains label = false :=
  ⟨spells_of_readLine, fun ⟨h, hfree⟩ ↦ h.readLine_eq hfree⟩

end RegisterMachine.Source
