import RegisterMachine.Proofs.Source.Language

/-!
# The words of the accepted lines

The grammar of source lines can also be given on words: a label with its colon if there is one, the
opcode, and then each operand as a word of its own (`Lists`). This module says how far the words of
a line decide whether the line is accepted.

They do not decide it alone, because a line is looked at twice. It falls into words at the blanks of
every script; the scanners then go over the whole text, skip only four of these blanks, and stop
where their own tokens end. This makes two differences, and there are no others
(`readLine_empty_iff_words`).

* A literal with a sign may touch the register before it. The two are then one word, which is no
  operand, and the line is accepted all the same (`ListsTouching`).
* A blank that is not skipped parts two words, and the line is refused whatever its words are
  (`HasPlainGaps`).

Both do occur (`words_do_not_decide`). The link between the two views is `spells_iff_tokens`: a
spelling is a list of tokens with gaps between them, and `joined_strip_iff` says that these tokens
are the words of the line.
-/

namespace RegisterMachine.Source

open Text

/-! ### Words of an instruction -/

/-- The words of an operation: its opcode, and each operand as a word of its own. -/
inductive ListsOperation : Operation → List (List Char) → Prop
  | arithmetic {op : Arithmetic} {result source : Register} :
      ListsOperation (.arithmetic op result source)
        [op.mnemonic.toList, result.name.toList, source.name.toList]
  | mov {result : Register} {value : Int} {mark digits : List Char}
      (hliteral : IsLiteral mark digits value) :
      ListsOperation (.mov result value) ["mov".toList, result.name.toList, mark ++ digits]
  | out {source : Register} : ListsOperation (.out source) ["out".toList, source.name.toList]
  | jnz {source : Register} {target : String} (htarget : IsIdentifier target.toList) :
      ListsOperation (.jnz source target) ["jnz".toList, source.name.toList, target.toList]

/-- The words of a move whose literal touches the register. -/
inductive TouchingMove : Operation → List (List Char) → Prop
  | mov {result : Register} {value : Int} {mark digits : List Char}
      (hliteral : IsLiteral mark digits value) (hmark : mark ≠ []) :
      TouchingMove (.mov result value) ["mov".toList, result.name.toList ++ (mark ++ digits)]

/-- The words of an instruction, where those of an operation are given: a label is a word of its
own together with its colon. -/
inductive AfterLabel (Body : Operation → List (List Char) → Prop) :
    Instruction → List (List Char) → Prop
  | unlabelled {operation : Operation} {tokens : List (List Char)} (h : Body operation tokens) :
      AfterLabel Body ⟨none, operation⟩ tokens
  | labelled {label : String} {operation : Operation} {tokens : List (List Char)}
      (hlabel : IsIdentifier label.toList) (h : Body operation tokens) :
      AfterLabel Body ⟨some label, operation⟩ ((label.toList ++ [':']) :: tokens)

/-- The words of an instruction, each token a word of its own. -/
abbrev Lists : Instruction → List (List Char) → Prop := AfterLabel ListsOperation

/-- The words of an instruction that moves a literal which touches the register. -/
abbrev ListsTouching : Instruction → List (List Char) → Prop := AfterLabel TouchingMove

/-- A blank inside the line is one that the scanners skip. -/
def HasPlainGaps (line : String) : Prop :=
  ∀ c ∈ strip line.toList, isBlank c = true → isSkipped c = true

/-! ### Tokens with gaps between them -/

/-- The gaps that the scanners skip are the plain ones among all blanks. -/
theorem joined_isSkipped_iff {tokens : List (List Char)} {text : List Char} :
    Joined isSkipped tokens text ↔
      Joined isBlank tokens text ∧ ∀ c ∈ text, isBlank c = true → isSkipped c = true := by
  constructor
  · intro h
    induction h with
    | single htoken =>
      exact ⟨.single htoken, fun c hc hblank ↦ nomatch (htoken.isBlank c hc).symm.trans hblank⟩
    | @cons token gap text tokens htoken hgap hne _ ih =>
      obtain ⟨ih, hplain⟩ := ih
      refine ⟨.cons htoken (fun c hc ↦ isBlank_of_isSkipped (hgap c hc)) hne ih, ?_⟩
      intro c hc hblank
      simp only [List.mem_append] at hc
      rcases hc with hc | hc | hc
      · exact nomatch (htoken.isBlank c hc).symm.trans hblank
      · exact hgap c hc
      · exact hplain c hc hblank
  · rintro ⟨h, hplain⟩
    induction h with
    | single htoken => exact .single htoken
    | @cons token gap text tokens htoken hgap hne _ ih =>
      refine .cons htoken (fun c hc ↦ hplain c (by simp [hc]) (hgap c hc)) hne (ih fun c hc ↦ ?_)
      exact hplain c (by simp [hc])

/-- A token in front of a gap. -/
theorem joined_append_spacing {token gap text : List Char} {tokens : List (List Char)}
    (htoken : IsSolid token) (hgap : IsSpacing gap) (h : Joined isSkipped tokens text) :
    Joined isSkipped (token :: tokens) (token ++ (gap ++ text)) :=
  .cons htoken hgap.isGap hgap.nonempty h

theorem eq_of_joined_singleton {token text : List Char} (h : Joined isSkipped [token] text) :
    text = token := by
  cases h with
  | single => rfl
  | cons _ _ _ h => exact absurd rfl h.tokens_ne_nil

/-- A token that another one follows stands in front of a gap. -/
theorem exists_spacing_of_joined {token next text : List Char} {tokens : List (List Char)}
    (h : Joined isSkipped (token :: next :: tokens) text) :
    ∃ gap rest, IsSpacing gap ∧ Joined isSkipped (next :: tokens) rest ∧
      text = token ++ (gap ++ rest) := by
  cases h with
  | cons _ hgap hne h => exact ⟨_, _, ⟨hgap, hne⟩, h, rfl⟩

theorem exists_spacing_of_joined_two {first last text : List Char}
    (h : Joined isSkipped [first, last] text) :
    ∃ gap, IsSpacing gap ∧ text = first ++ (gap ++ last) := by
  obtain ⟨gap, rest, hgap, hrest, rfl⟩ := exists_spacing_of_joined h
  exact ⟨gap, hgap, by rw [eq_of_joined_singleton hrest]⟩

theorem exists_spacing_of_joined_three {first second last text : List Char}
    (h : Joined isSkipped [first, second, last] text) :
    ∃ before between, IsSpacing before ∧ IsSpacing between ∧
      text = first ++ (before ++ (second ++ (between ++ last))) := by
  obtain ⟨before, rest, hbefore, hrest, rfl⟩ := exists_spacing_of_joined h
  obtain ⟨between, hbetween, rfl⟩ := exists_spacing_of_joined_two hrest
  exact ⟨before, between, hbefore, hbetween, rfl⟩

/-! ### The opcode among the words -/

theorem ListsOperation.exists_opcode {operation : Operation} {tokens : List (List Char)}
    (h : ListsOperation operation tokens) :
    ∃ op : Opcode, ∃ operands, tokens = op.mnemonic.toList :: operands := by
  cases h with
  | @arithmetic op => exact ⟨.arithmetic op, _, rfl⟩
  | mov => exact ⟨.mov, _, rfl⟩
  | out => exact ⟨.out, _, rfl⟩
  | jnz => exact ⟨.jnz, _, rfl⟩

theorem TouchingMove.exists_opcode {operation : Operation} {tokens : List (List Char)}
    (h : TouchingMove operation tokens) :
    ∃ op : Opcode, ∃ operands, tokens = op.mnemonic.toList :: operands := by
  cases h with
  | mov => exact ⟨.mov, _, rfl⟩

namespace AfterLabel

variable {Body : Operation → List (List Char) → Prop} {i : Instruction} {tokens : List (List Char)}
  (hopcode : ∀ {operation tokens}, Body operation tokens →
    ∃ op : Opcode, ∃ operands, tokens = op.mnemonic.toList :: operands)
include hopcode

theorem ne_nil (h : AfterLabel Body i tokens) : tokens ≠ [] := by
  cases h with
  | unlabelled h =>
    obtain ⟨op, operands, rfl⟩ := hopcode h
    simp
  | labelled => simp

/-- The words of the operation are those that are left without the label. -/
theorem dropLabelWord (h : AfterLabel Body i tokens) :
    Body i.operation (dropLabelWord tokens) := by
  cases h with
  | unlabelled h =>
    obtain ⟨op, operands, rfl⟩ := hopcode h
    have hdrop := dropLabelWord_append [] (isIdentifier_mnemonic op) operands
    rw [List.nil_append] at hdrop
    rwa [hdrop]
  | labelled _ h => simpa [Source.dropLabelWord] using h

/-- Tokens spell an instruction if those of its operation spell the operation. -/
theorem spells {text : List Char} (h : AfterLabel Body i tokens)
    (hBody : ∀ {operation tokens text}, Body operation tokens → Joined isSkipped tokens text →
      SpellsOperation operation text)
    (hjoined : Joined isSkipped tokens text) : Spells i text := by
  cases h with
  | unlabelled h => exact .unlabelled (hBody h hjoined)
  | labelled hlabel h =>
    obtain ⟨op, operands, rfl⟩ := hopcode h
    obtain ⟨gap, rest, hgap, hrest, rfl⟩ := exists_spacing_of_joined hjoined
    rw [← List.append_cons]
    exact .labelled hlabel hgap (hBody h hrest)

end AfterLabel

/-! ### The two ways to list an instruction exclude each other -/

/-- A literal in the word of the register leaves a move with one word too few. -/
theorem ListsOperation.not_touchingMove {operation operation' : Operation}
    {tokens : List (List Char)} (h : ListsOperation operation tokens) :
    ¬TouchingMove operation' tokens := by
  intro htouching
  obtain ⟨hlength, hhead⟩ : tokens.length = 2 ∧ tokens.head? = some "mov".toList := by
    cases htouching
    exact ⟨rfl, rfl⟩
  cases h with
  | arithmetic => exact nomatch hlength
  | mov => exact nomatch hlength
  | out => exact absurd (Option.some.inj hhead) (by decide)
  | jnz => exact nomatch hlength

theorem Lists.not_listsTouching {i j : Instruction} {tokens : List (List Char)}
    (h : Lists i tokens) : ¬ListsTouching j tokens := by
  intro htouching
  have hlists := h.dropLabelWord ListsOperation.exists_opcode
  exact hlists.not_touchingMove (htouching.dropLabelWord TouchingMove.exists_opcode)

/-! ### Spellings by their tokens -/

/-- A spelled operation is listed by its tokens, or is a move whose literal touches the register. -/
theorem SpellsOperation.exists_tokens {operation : Operation} {text : List Char}
    (h : SpellsOperation operation text) :
    ∃ tokens, (ListsOperation operation tokens ∨ TouchingMove operation tokens) ∧
      Joined isSkipped tokens text := by
  have hopcode : ∀ (op : Opcode) {gap rest : List Char} {tokens : List (List Char)},
      IsSpacing gap → Joined isSkipped tokens rest →
      Joined isSkipped (op.mnemonic.toList :: tokens) (op.mnemonic.toList ++ (gap ++ rest)) :=
    fun op ↦ joined_append_spacing (isIdentifier_mnemonic op).isSolid
  have hname : ∀ r : Register, IsSolid r.name.toList := fun r ↦ (isIdentifier_name r).isSolid
  cases h with
  | @arithmetic op result source _ _ hbefore hbetween =>
    have hoperands := joined_append_spacing (hname result) hbetween (.single (hname source))
    exact ⟨_, .inl .arithmetic, hopcode (.arithmetic op) hbefore hoperands⟩
  | @mov result _ _ between _ _ hbefore hbetween hliteral htouch =>
    by_cases hnil : between = []
    · subst hnil
      have hword := (hname result).append hliteral.isSolid.isBlank
      exact ⟨_, .inr (.mov hliteral (htouch rfl)), hopcode .mov hbefore (.single hword)⟩
    · have hoperands := joined_append_spacing (hname result) ⟨hbetween, hnil⟩
        (.single hliteral.isSolid)
      exact ⟨_, .inl (.mov hliteral), hopcode .mov hbefore hoperands⟩
  | @out source _ hbefore => exact ⟨_, .inl .out, hopcode .out hbefore (.single (hname source))⟩
  | @jnz source _ _ _ hbefore hbetween htarget =>
    have hoperands := joined_append_spacing (hname source) hbetween (.single htarget.isSolid)
    exact ⟨_, .inl (.jnz htarget), hopcode .jnz hbefore hoperands⟩

/-- Tokens that list an operation spell it, with gaps between them. -/
theorem ListsOperation.spells {operation : Operation} {tokens : List (List Char)}
    {text : List Char} (h : ListsOperation operation tokens)
    (hjoined : Joined isSkipped tokens text) : SpellsOperation operation text := by
  cases h with
  | arithmetic =>
    obtain ⟨before, between, hbefore, hbetween, rfl⟩ := exists_spacing_of_joined_three hjoined
    exact .arithmetic hbefore hbetween
  | mov hliteral =>
    obtain ⟨before, between, hbefore, hbetween, rfl⟩ := exists_spacing_of_joined_three hjoined
    exact .mov hbefore hbetween.isGap hliteral fun hnil ↦ absurd hnil hbetween.nonempty
  | out =>
    obtain ⟨before, hbefore, rfl⟩ := exists_spacing_of_joined_two hjoined
    exact .out hbefore
  | jnz htarget =>
    obtain ⟨before, between, hbefore, hbetween, rfl⟩ := exists_spacing_of_joined_three hjoined
    exact .jnz hbefore hbetween htarget

theorem TouchingMove.spells {operation : Operation} {tokens : List (List Char)}
    {text : List Char} (h : TouchingMove operation tokens)
    (hjoined : Joined isSkipped tokens text) : SpellsOperation operation text := by
  cases h with
  | mov hliteral hmark =>
    obtain ⟨before, hbefore, rfl⟩ := exists_spacing_of_joined_two hjoined
    exact .mov hbefore isGap_nil hliteral fun _ ↦ hmark

/-- **An instruction is spelled by the tokens that list it**, or that list it but for a literal that
touches a register, with gaps between them. -/
theorem spells_iff_tokens {i : Instruction} {text : List Char} :
    Spells i text ↔
      ∃ tokens, (Lists i tokens ∨ ListsTouching i tokens) ∧ Joined isSkipped tokens text := by
  constructor
  · intro h
    cases h with
    | unlabelled h =>
      obtain ⟨tokens, htokens, hjoined⟩ := h.exists_tokens
      exact ⟨tokens, htokens.imp .unlabelled .unlabelled, hjoined⟩
    | @labelled label operation gap text hlabel hgap h =>
      obtain ⟨tokens, htokens, hjoined⟩ := h.exists_tokens
      have hcolon : IsSolid (label.toList ++ [':']) := hlabel.isSolid.append (by simp; decide)
      have hline := joined_append_spacing hcolon hgap hjoined
      rw [← List.append_cons] at hline
      exact ⟨_, htokens.imp (.labelled hlabel) (.labelled hlabel), hline⟩
  · rintro ⟨tokens, hlists | htouching, hjoined⟩
    · exact hlists.spells ListsOperation.exists_opcode ListsOperation.spells hjoined
    · exact htouching.spells TouchingMove.exists_opcode TouchingMove.spells hjoined

/-! ### Lines -/

/-- With no label bound, a line is accepted by its words, provided that its gaps are plain. -/
theorem readLine_empty_eq_instruction_iff {line : String} {i : Instruction} :
    readLine .empty line = .ok (.instruction i) ↔
      HasPlainGaps line ∧ (Lists i (words line.toList) ∨ ListsTouching i (words line.toList)) := by
  have hspells : readLine .empty line = .ok (.instruction i) ↔ Spells i (strip line.toList) :=
    ⟨fun h ↦ (spells_of_readLine h).1, fun h ↦ h.readLine_eq fun _ _ ↦ rfl⟩
  rw [hspells, spells_iff_tokens]
  constructor
  · rintro ⟨tokens, htokens, hjoined⟩
    obtain ⟨hjoined, hplain⟩ := joined_isSkipped_iff.1 hjoined
    obtain ⟨rfl, -⟩ := joined_strip_iff.1 hjoined
    exact ⟨hplain, htokens⟩
  · rintro ⟨hplain, htokens⟩
    have hne : words line.toList ≠ [] := by
      rcases htokens with h | h
      · exact h.ne_nil ListsOperation.exists_opcode
      · exact h.ne_nil TouchingMove.exists_opcode
    exact ⟨_, htokens, joined_isSkipped_iff.2 ⟨joined_strip_iff.2 ⟨rfl, hne⟩, hplain⟩⟩

/-- **How far the words of a line decide.** With no label bound, a line is read as an instruction
exactly when its gaps are plain and its words list the instruction, or list it but for a literal
that touches a register.

Hence the words that list an instruction decide about a line, unless its gaps are plain and a
literal touches a register, or a gap is not plain and the words list an instruction. And lines with
the same words are read alike if their gaps are plain in both or in neither, and otherwise only if
their words are those of no instruction. -/
theorem readLine_empty_iff_words (line : String) :
    (∀ i, readLine .empty line = .ok (.instruction i) ↔
      HasPlainGaps line ∧ (Lists i (words line.toList) ∨ ListsTouching i (words line.toList))) ∧
    (((∃ i, readLine .empty line = .ok (.instruction i)) ↔ ∃ i, Lists i (words line.toList)) ↔
      ¬(HasPlainGaps line ∧ ∃ i, ListsTouching i (words line.toList)) ∧
        ¬(¬HasPlainGaps line ∧ ∃ i, Lists i (words line.toList))) ∧
    ∀ other : String, words other.toList = words line.toList →
      ((∀ i, readLine .empty other = .ok (.instruction i) ↔
          readLine .empty line = .ok (.instruction i)) ↔
        (HasPlainGaps other ↔ HasPlainGaps line) ∨
          ¬∃ i, Lists i (words line.toList) ∨ ListsTouching i (words line.toList)) := by
  refine ⟨fun i ↦ readLine_empty_eq_instruction_iff, ?_, fun other hwords ↦ ?_⟩
  · have hexists : (∃ i, readLine .empty line = .ok (.instruction i)) ↔
        HasPlainGaps line ∧
          ((∃ i, Lists i (words line.toList)) ∨ ∃ i, ListsTouching i (words line.toList)) := by
      simp only [readLine_empty_eq_instruction_iff, exists_and_left, exists_or]
    have hexclusive : (∃ i, Lists i (words line.toList)) →
        ¬∃ i, ListsTouching i (words line.toList) :=
      fun ⟨_, hlists⟩ ⟨_, htouching⟩ ↦ hlists.not_listsTouching htouching
    rw [hexists]
    by_cases hplain : HasPlainGaps line
    · rw [and_iff_right hplain, and_iff_right hplain, or_iff_left_iff_imp]
      exact ⟨fun h ↦ ⟨fun htouching ↦ hexclusive (h htouching) htouching, fun h ↦ h.1 hplain⟩,
        fun h htouching ↦ absurd htouching h.1⟩
    · simp only [hplain, false_and, false_iff, not_false_eq_true, true_and]
  · simp only [readLine_empty_eq_instruction_iff, hwords]
    constructor
    · intro h
      by_contra hnot
      obtain ⟨hgaps, hlisted⟩ := not_or.1 hnot
      obtain ⟨i, hi⟩ := not_not.1 hlisted
      exact hgaps ⟨fun hother ↦ ((h i).1 ⟨hother, hi⟩).1, fun hline ↦ ((h i).2 ⟨hline, hi⟩).1⟩
    · rintro (hgaps | hlisted) i
      · rw [hgaps]
      · exact ⟨fun h ↦ absurd ⟨i, h.2⟩ hlisted, fun h ↦ absurd ⟨i, h.2⟩ hlisted⟩

/-- **The words alone do not decide**, in either direction: a line with a word that is no operand is
accepted, and of two lines with the same words only one is. -/
theorem words_do_not_decide :
    (readLine .empty "mov EAX-5" = .ok (.instruction ⟨none, .mov .eax (-5)⟩) ∧
      ¬∃ i, Lists i (words "mov EAX-5".toList)) ∧
    words "out\u00a0EAX".toList = words "out EAX".toList ∧
      Lists ⟨none, .out .eax⟩ (words "out\u00a0EAX".toList) ∧
      readLine .empty "out EAX" = .ok (.instruction ⟨none, .out .eax⟩) ∧
      ¬∃ i, readLine .empty "out\u00a0EAX" = .ok (.instruction i) := by
  refine ⟨⟨by decide, ?_⟩, by decide, ?_, by decide, ?_⟩
  · rintro ⟨i, hlists⟩
    have hliteral : IsLiteral ['-'] ['5'] (-5) :=
      ⟨by simp, by simp, by decide, ⟨.minus, .minus, by decide⟩, by decide, by decide⟩
    have hwords : words "mov EAX-5".toList =
        ["mov".toList, Register.eax.name.toList ++ (['-'] ++ ['5'])] := by decide
    rw [hwords] at hlists
    exact hlists.not_listsTouching (.unlabelled (.mov hliteral (by simp)))
  · have hwords : words "out\u00a0EAX".toList = ["out".toList, Register.eax.name.toList] := by
      decide
    rw [hwords]
    exact .unlabelled .out
  · rintro ⟨i, hread⟩
    -- the gap is a blank, but none that is skipped
    obtain ⟨hplain, -⟩ := readLine_empty_eq_instruction_iff.1 hread
    exact absurd (hplain '\u00a0' (by decide) (by decide)) (by decide)

end RegisterMachine.Source
