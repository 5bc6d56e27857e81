import RegisterMachine.Proofs.Source.Tabs

/-!
# Spelling and scanning

The scanners for operations agree with the grammar. **What is spelled is scanned**
(`SpellsOperation.scan`, `Spells.readStatement`), and **what is scanned is spelled**
(`exists_spelling_of_scanOperation`).

Only the second direction needs to know why tokens stay apart. The word for an opcode and the name
of a register must not be followed by certain characters, among them every character with which an
identifier, the name of a register or a number without a sign starts; so the gap before one of
these cannot be empty. A sign is none of these characters, which is how a literal comes to touch
the name of a register.
-/

namespace RegisterMachine.Source

open Text

/-! ### What is spelled is scanned -/

/-- An identifier starts with an identifier character, whatever larger class is asked about. -/
theorem IsIdentifier.startsWith_append {token : List Char} (h : IsIdentifier token)
    {test : Char → Bool} (htest : ∀ {c}, Source.isIdentChar c = true → test c = true)
    (rest : List Char) : startsWith test (token ++ rest) = true := by
  cases token with
  | nil => exact h.elim
  | cons c token => exact htest (h.isIdentChar c List.mem_cons_self)

/-- A token at the very end of a text is taken. -/
theorem Takes.scan_append_nil {α : Type} {scan : Scanner α} {IsToken : α → List Char → Prop}
    {glues : Char → Bool} (h : Takes scan IsToken glues) {gap token : List Char} {a : α}
    (hgap : IsGap gap) (htoken : IsToken a token) : scan (gap ++ token) = .ok (a, []) := by
  have hscan := h.scan_append hgap htoken (startsWith_nil glues)
  rwa [List.append_nil] at hscan

/-- A sign ends the name of a register. -/
theorem startsWith_isWordChar_mark {mark : List Char} {sign : Sign} (h : IsSign mark sign)
    (hne : mark ≠ []) (rest : List Char) : startsWith isWordChar (mark ++ rest) = false := by
  cases h with
  | absent => exact absurd rfl hne
  | plus => exact (by decide : isWordChar '+' = false)
  | minus => exact (by decide : isWordChar '-' = false)

/-- The gap before a number ends the name of a register, and so does the sign where there is no
gap. -/
theorem startsWith_isWordChar_number {between mark : List Char} {sign : Sign}
    (hbetween : IsGap between) (hsign : IsSign mark sign) (htouch : between = [] → mark ≠ [])
    (rest : List Char) : startsWith isWordChar (between ++ (mark ++ rest)) = false := by
  by_cases hnil : between = []
  · rw [hnil, List.nil_append]
    exact startsWith_isWordChar_mark hsign (htouch hnil) rest
  · exact startsWith_append_of_isSpacing ⟨hbetween, hnil⟩ isWordChar_of_isSkipped _

/-- **What spells an operation is scanned as this operation**, after any gap and to the end. -/
theorem SpellsOperation.scan {operation : Operation} {text : List Char}
    (h : SpellsOperation operation text) {gap : List Char} (hgap : IsGap gap) :
    ∃ op, operation.opcode? = some op ∧ scanOperation op (gap ++ text) = .ok (operation, []) := by
  have hkeyword : ∀ (op : Opcode) {before rest : List Char}, IsSpacing before →
      scanKeyword op (gap ++ (op.mnemonic.toList ++ (before ++ rest))) = .ok ((), before ++ rest) :=
    fun op _ _ hbefore ↦ (takes_scanKeyword op).scan_append hgap rfl
      (startsWith_append_of_isSpacing hbefore isKeywordChar_of_isSkipped _)
  have hregister : ∀ (r : Register) {before rest : List Char}, IsSpacing before →
      startsWith isWordChar rest = false →
      scanRegister (before ++ (r.name.toList ++ rest)) = .ok (r, rest) :=
    fun r _ _ hbefore hrest ↦ takes_scanRegister.scan_append hbefore.isGap rfl hrest
  cases h with
  | @arithmetic op result source before between hbefore hbetween =>
    refine ⟨.arithmetic op, rfl, bind_eq_ok_iff.2 ⟨_, hkeyword (.arithmetic op) hbefore, ?_⟩⟩
    have hresult := hregister result hbefore
      (startsWith_append_of_isSpacing hbetween isWordChar_of_isSkipped source.name.toList)
    have hsource := takes_scanRegister.scan_append_nil (a := source) hbetween.isGap rfl
    exact bind_eq_ok_iff.2 ⟨_, hresult, bind_eq_ok_iff.2 ⟨_, hsource, rfl⟩⟩
  | @mov result value before between mark digits hbefore hbetween hliteral htouch =>
    refine ⟨.mov, rfl, bind_eq_ok_iff.2 ⟨_, hkeyword .mov hbefore, ?_⟩⟩
    obtain ⟨sign, hsign⟩ := hliteral.isNumeral.isSign
    have hresult := hregister result hbefore
      (startsWith_isWordChar_number hbetween hsign htouch digits)
    have hvalue := takes_scanInteger.scan_append_nil hbetween ⟨mark, digits, hliteral, rfl⟩
    exact bind_eq_ok_iff.2 ⟨_, hresult, bind_eq_ok_iff.2 ⟨_, hvalue, rfl⟩⟩
  | @out source before hbefore =>
    refine ⟨.out, rfl, bind_eq_ok_iff.2 ⟨_, hkeyword .out hbefore, ?_⟩⟩
    have hsource := takes_scanRegister.scan_append_nil (a := source) hbefore.isGap rfl
    exact bind_eq_ok_iff.2 ⟨_, hsource, rfl⟩
  | @jnz source target before between hbefore hbetween htarget =>
    refine ⟨.jnz, rfl, bind_eq_ok_iff.2 ⟨_, hkeyword .jnz hbefore, ?_⟩⟩
    have hsource := hregister source hbefore
      (startsWith_append_of_isSpacing hbetween isWordChar_of_isSkipped target.toList)
    have htarget := (takes_scanIdentifier .labelReference).scan_append_nil hbetween.isGap
      ⟨htarget, rfl⟩
    exact bind_eq_ok_iff.2 ⟨_, hsource, bind_eq_ok_iff.2 ⟨_, htarget, rfl⟩⟩

/-! ### What is scanned is spelled -/

/-- A gap between two tokens that must not touch is not empty. -/
theorem IsGap.isSpacing {gap rest : List Char} (hgap : IsGap gap) {test : Char → Bool}
    (hends : startsWith test (gap ++ rest) = false) (hrest : startsWith test rest = true) :
    IsSpacing gap := by
  refine ⟨hgap, ?_⟩
  rintro rfl
  rw [List.nil_append, hrest] at hends
  exact nomatch hends

/-- The gap between two tokens of which the second is an identifier, a word for an opcode or the
name of a register. -/
theorem IsGap.isSpacing_of_isIdentifier {gap token rest : List Char} (hgap : IsGap gap)
    {test : Char → Bool} (htest : ∀ {c}, isIdentChar c = true → test c = true)
    (htoken : IsIdentifier token) (hends : startsWith test (gap ++ (token ++ rest)) = false) :
    IsSpacing gap :=
  hgap.isSpacing hends (htoken.startsWith_append htest rest)

/-- A register that is scanned behind something which must not touch it. -/
theorem exists_register_of_scanRegister {text rest : List Char} {r : Register} {test : Char → Bool}
    (htest : ∀ {c}, isIdentChar c = true → test c = true) (hends : startsWith test text = false)
    (hscan : scanRegister text = .ok (r, rest)) :
    ∃ gap, IsSpacing gap ∧ text = gap ++ (r.name.toList ++ rest) ∧
      startsWith isWordChar rest = false := by
  obtain ⟨gap, _, hgap, rfl, rfl, hrest⟩ := takes_scanRegister.exists_of_ok hscan
  exact ⟨gap, hgap.isSpacing_of_isIdentifier htest (isIdentifier_name r) hends, rfl, hrest⟩

/-- Where neither a gap nor a sign stood before a number, a digit would follow the name of the
register. -/
theorem IsNumeral.mark_ne_nil {between mark digits rest : List Char} (h : IsNumeral mark digits)
    (hends : startsWith isWordChar (between ++ (mark ++ digits ++ rest)) = false)
    (hbetween : between = []) : mark ≠ [] := by
  rintro rfl
  subst hbetween
  have hdigit := h.startsWith_isDigit rest
  simp only [List.nil_append] at hends
  rcases hlist : digits ++ rest with - | ⟨c, tail⟩
  · simp [hlist] at hdigit
  · rw [hlist, startsWith_cons] at hdigit hends
    rw [isWordChar_of_isIdentChar (isIdentChar_of_isDigit hdigit)] at hends
    exact nomatch hends

/-- **Whatever is scanned as an operation spells it**, after a gap and up to what is left. -/
theorem exists_spelling_of_scanOperation {op : Opcode} {operation : Operation}
    {text rest : List Char} (h : scanOperation op text = .ok (operation, rest)) :
    ∃ gap body, IsGap gap ∧ text = gap ++ (body ++ rest) ∧ SpellsOperation operation body := by
  obtain ⟨⟨_, text₁⟩, hkeyword, hoperands⟩ := bind_eq_ok_iff.1 h
  -- what must not follow the word and the names is kept: it makes the gaps after them spacing
  obtain ⟨gap, _, hgap, rfl, rfl, hword⟩ := (takes_scanKeyword op).exists_of_ok hkeyword
  cases op with
  | arithmetic op =>
    obtain ⟨⟨result, text₂⟩, hresult, hlast⟩ := bind_eq_ok_iff.1 hoperands
    obtain ⟨⟨source, text₃⟩, hsource, heq⟩ := bind_eq_ok_iff.1 hlast
    obtain ⟨rfl, rfl⟩ := Prod.mk.inj (Except.ok.inj heq)
    obtain ⟨before, hbefore, rfl, hname⟩ :=
      exists_register_of_scanRegister isKeywordChar_of_isIdentChar hword hresult
    obtain ⟨between, hbetween, rfl, -⟩ :=
      exists_register_of_scanRegister isWordChar_of_isIdentChar hname hsource
    exact ⟨gap, _, hgap, by simp [Opcode.mnemonic], .arithmetic hbefore hbetween⟩
  | mov =>
    obtain ⟨⟨result, text₂⟩, hresult, hlast⟩ := bind_eq_ok_iff.1 hoperands
    obtain ⟨⟨value, text₃⟩, hvalue, heq⟩ := bind_eq_ok_iff.1 hlast
    obtain ⟨rfl, rfl⟩ := Prod.mk.inj (Except.ok.inj heq)
    obtain ⟨before, hbefore, rfl, hname⟩ :=
      exists_register_of_scanRegister isKeywordChar_of_isIdentChar hword hresult
    obtain ⟨between, _, hbetween, ⟨mark, digits, hliteral, rfl⟩, rfl, -⟩ :=
      takes_scanInteger.exists_of_ok hvalue
    exact ⟨gap, _, hgap, by simp [Opcode.mnemonic],
      .mov hbefore hbetween hliteral (hliteral.isNumeral.mark_ne_nil hname)⟩
  | out =>
    obtain ⟨⟨source, text₂⟩, hsource, heq⟩ := bind_eq_ok_iff.1 hoperands
    obtain ⟨rfl, rfl⟩ := Prod.mk.inj (Except.ok.inj heq)
    obtain ⟨before, hbefore, rfl, -⟩ :=
      exists_register_of_scanRegister isKeywordChar_of_isIdentChar hword hsource
    exact ⟨gap, _, hgap, by simp [Opcode.mnemonic], .out hbefore⟩
  | jnz =>
    obtain ⟨⟨source, text₂⟩, hsource, hlast⟩ := bind_eq_ok_iff.1 hoperands
    obtain ⟨⟨target, text₃⟩, htarget, heq⟩ := bind_eq_ok_iff.1 hlast
    obtain ⟨rfl, rfl⟩ := Prod.mk.inj (Except.ok.inj heq)
    obtain ⟨before, hbefore, rfl, hname⟩ :=
      exists_register_of_scanRegister isKeywordChar_of_isIdentChar hword hsource
    obtain ⟨between, _, hbetween, ⟨hident, rfl⟩, rfl, -⟩ :=
      (takes_scanIdentifier .labelReference).exists_of_ok htarget
    have hspacing :=
      hbetween.isSpacing_of_isIdentifier isWordChar_of_isIdentChar hident hname
    exact ⟨gap, _, hgap, by simp [Opcode.mnemonic], .jnz hbefore hspacing hident⟩

/-! ### Statements -/

/-- Every operation starts with the word for its opcode and a gap after it. -/
theorem SpellsOperation.exists_head {operation : Operation} {text : List Char}
    (h : SpellsOperation operation text) :
    ∃ op before rest, operation.opcode? = some op ∧ IsSpacing before ∧
      text = op.mnemonic.toList ++ (before ++ rest) := by
  cases h with
  | arithmetic hbefore => exact ⟨.arithmetic _, _, _, rfl, hbefore, rfl⟩
  | mov hbefore => exact ⟨.mov, _, _, rfl, hbefore, rfl⟩
  | @out source before hbefore => exact ⟨.out, before, _, rfl, hbefore, rfl⟩
  | jnz hbefore => exact ⟨.jnz, _, _, rfl, hbefore, rfl⟩

/-- No label is scanned where an opcode stands: a gap and not a colon follows the identifier
there. -/
theorem scanLabel_ne_ok (op : Opcode) {before : List Char} (hbefore : IsSpacing before)
    (rest : List Char) (token : String × List Char) :
    scanLabel (op.mnemonic.toList ++ (before ++ rest)) ≠ .ok token := by
  intro hscan
  obtain ⟨_, ⟨hname, rfl⟩, hskip, -⟩ := takes_scanLabel.ok_iff.1 hscan
  have hmnemonic := isIdentifier_mnemonic op
  rw [skip_append_of_isSolid hmnemonic.isSolid, List.append_assoc] at hskip
  -- the name of the label would be the word for the opcode, and the colon stand in the gap
  obtain ⟨-, hrest⟩ := append_inj_of_startsWith hmnemonic.isIdentChar hname.isIdentChar
    (startsWith_append_of_isSpacing hbefore isIdentChar_of_isSkipped rest)
    (by simp [show isIdentChar ':' = false by decide]) hskip
  obtain ⟨hgap, hne⟩ := hbefore
  rcases before with - | ⟨c, before⟩
  · exact hne rfl
  · obtain ⟨rfl, -⟩ := List.cons.inj hrest
    exact absurd (hgap ':' List.mem_cons_self) (by decide)

/-- A label at the front of a text is scanned. -/
theorem scanLabel_append {label : String} (hlabel : IsIdentifier label.toList) (rest : List Char) :
    scanLabel (label.toList ++ ':' :: rest) = .ok (label, rest) := by
  rw [List.append_cons]
  exact takes_scanLabel.scan_append isGap_nil ⟨hlabel, rfl⟩ (by cases rest <;> rfl)

theorem scanStatement_eq_ok_iff {op : Opcode} {text rest : List Char} {label? : Option String}
    {operation : Operation} :
    scanStatement op text = .ok (⟨label?, operation⟩, rest) ↔
      ∃ middle, scanOptionalLabel text = (label?, middle) ∧
        scanOperation op middle = .ok (operation, rest) := by
  constructor
  · intro h
    obtain ⟨⟨operation', rest'⟩, hscan, heq⟩ := bind_eq_ok_iff.1 h
    obtain ⟨hstatement, rfl⟩ := Prod.mk.inj (Except.ok.inj heq)
    obtain ⟨rfl, rfl⟩ := Statement.mk.inj hstatement
    exact ⟨_, rfl, hscan⟩
  · rintro ⟨middle, hlabel, hscan⟩
    rw [scanStatement, hlabel]
    exact bind_eq_ok_iff.2 ⟨_, hscan, rfl⟩

/-- What spells an instruction is read as its statement. -/
theorem Spells.readStatement {i : Instruction} {text : List Char} (h : Spells i text) :
    ∃ op, i.operation.opcode? = some op ∧
      Source.readStatement op text = .ok ⟨i.label?, i.operation⟩ := by
  cases h with
  | unlabelled h =>
    obtain ⟨op, hop, hscan⟩ := h.scan isGap_nil
    obtain ⟨op', before, rest, -, hbefore, rfl⟩ := h.exists_head
    have hlabel := scanOptionalLabel_eq_iff.2 (.inr ⟨rfl, rfl, scanLabel_ne_ok op' hbefore rest⟩)
    refine ⟨op, hop, readStatement_eq_ok_iff.2 ⟨[], ?_, isGap_nil⟩⟩
    exact scanStatement_eq_ok_iff.2 ⟨_, hlabel, hscan⟩
  | @labelled label operation gap text hname hgap h =>
    obtain ⟨op, hop, hscan⟩ := h.scan hgap.isGap
    have hlabel := scanLabel_append hname (gap ++ text)
    refine ⟨op, hop, readStatement_eq_ok_iff.2 ⟨[], ?_, isGap_nil⟩⟩
    exact scanStatement_eq_ok_iff.2 ⟨_, scanOptionalLabel_eq_iff.2 (.inl ⟨_, rfl, hlabel⟩), hscan⟩

end RegisterMachine.Source
