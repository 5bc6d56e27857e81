import RegisterMachine.Proofs.Source.Token
import RegisterMachine.Source.Statement
import RegisterMachine.Text.TabStop

/-!
# Tabs do not matter

A line is scanned with its tabs written as spaces, so that columns can be counted. Which
instruction it gives does not depend on it: `readStatement_expandTabs`.

The argument follows the scanners. `Spreads text spread` relates a text to the same text with its
tabs written out, from whatever column; the column is forgotten, since it only decides how many
spaces a tab becomes, and there is always at least one. A scanner is **tab-blind** when it takes
the same value off both texts and leaves two texts that are related again. Every scanner for
tokens is tab-blind (`Takes.tabBlind`), and tab-blindness survives sequencing (`TabBlind.bind`), so
it holds of whole statements without another look at any token.
-/

namespace RegisterMachine.Source

open Text

/-! ### Texts with their tabs written out -/

/-- The second text is the first one with its tabs written as spaces, starting at some column. -/
def Spreads (text spread : List Char) : Prop := ∃ column, spread = expandTabsFrom column text

theorem spreads_expandTabs (text : List Char) : Spreads text (expandTabs text) := ⟨0, rfl⟩

/-- A tab becomes spacing. -/
theorem isSpacing_tab (column : Nat) : IsSpacing (List.replicate (toTabStop column) ' ') := by
  refine ⟨fun c hc ↦ ?_, ?_⟩
  · rw [List.eq_of_mem_replicate hc]
    decide
  · have := toTabStop_pos column
    simp only [ne_eq, List.replicate_eq_nil_iff]
    omega

/-- A character that is no tab stays, and all after it is spread from some column. -/
theorem exists_expandTabsFrom_cons {c : Char} (hc : c ≠ '\t') (column : Nat) (rest : List Char) :
    ∃ next, expandTabsFrom column (c :: rest) = c :: expandTabsFrom next rest := by
  rw [expandTabsFrom, if_neg hc]
  split
  · exact ⟨0, rfl⟩
  · exact ⟨column + 1, rfl⟩

namespace Spreads

variable {text spread : List Char}

theorem tab_cons (h : Spreads ('\t' :: text) spread) :
    ∃ gap rest, IsSpacing gap ∧ spread = gap ++ rest ∧ Spreads text rest := by
  obtain ⟨column, rfl⟩ := h
  exact ⟨_, _, isSpacing_tab column, rfl, _, rfl⟩

theorem cons {c : Char} (hc : c ≠ '\t') (h : Spreads (c :: text) spread) :
    ∃ rest, spread = c :: rest ∧ Spreads text rest := by
  obtain ⟨column, rfl⟩ := h
  obtain ⟨next, hnext⟩ := exists_expandTabsFrom_cons hc column text
  exact ⟨_, hnext, next, rfl⟩

theorem skip (h : Spreads text spread) : Spreads (Source.skip text) (Source.skip spread) := by
  induction text generalizing spread with
  | nil =>
    obtain ⟨column, rfl⟩ := h
    exact ⟨column, rfl⟩
  | cons c text ih =>
    by_cases htab : c = '\t'
    · -- the spaces of a tab are skipped as the tab is
      subst htab
      obtain ⟨gap, rest, hgap, rfl, hrest⟩ := h.tab_cons
      rw [skip_append hgap.isGap]
      exact ih hrest
    · obtain ⟨rest, rfl, hrest⟩ := cons htab h
      cases hc : isSkipped c with
      | true => simpa [Source.skip, hc] using ih hrest
      | false => simpa [Source.skip, hc] using h

/-- A solid text at the front stays as it is. -/
theorem solid_append {token rest : List Char} (htoken : ∀ c ∈ token, Text.isBlank c = false)
    (h : Spreads (token ++ rest) spread) :
    ∃ left, spread = token ++ left ∧ Spreads rest left := by
  induction token generalizing spread with
  | nil => exact ⟨spread, rfl, h⟩
  | cons c token ih =>
    have hc : c ≠ '\t' := fun hc ↦ absurd (htoken c List.mem_cons_self) (by subst hc; decide)
    obtain ⟨middle, rfl, hmiddle⟩ := cons hc h
    obtain ⟨left, rfl, hleft⟩ := ih (fun d hd ↦ htoken d (List.mem_cons_of_mem _ hd)) hmiddle
    exact ⟨left, rfl, hleft⟩

/-- A solid text at the front was there before. -/
theorem of_solid_append {token left : List Char} (htoken : ∀ c ∈ token, Text.isBlank c = false)
    (h : Spreads text (token ++ left)) : ∃ rest, text = token ++ rest ∧ Spreads rest left := by
  induction token generalizing text with
  | nil => exact ⟨text, rfl, h⟩
  | cons c token ih =>
    rcases text with - | ⟨d, text⟩
    · obtain ⟨column, hnil⟩ := h
      exact nomatch hnil
    by_cases htab : d = '\t'
    · -- the spaces of a tab cannot stand where the solid text starts
      subst htab
      obtain ⟨gap, rest, ⟨hgap, hne⟩, heq, -⟩ := h.tab_cons
      rcases gap with - | ⟨e, gap⟩
      · exact absurd rfl hne
      · obtain ⟨rfl, -⟩ := List.cons.inj heq
        have hblank := isBlank_of_isSkipped (hgap c List.mem_cons_self)
        rw [htoken c List.mem_cons_self] at hblank
        exact nomatch hblank
    · obtain ⟨middle, heq, hmiddle⟩ := cons htab h
      obtain ⟨rfl, rfl⟩ := List.cons.inj heq
      obtain ⟨rest, rfl, hrest⟩ := ih (fun e he ↦ htoken e (List.mem_cons_of_mem _ he)) hmiddle
      exact ⟨rest, rfl, hrest⟩

/-- A class without gap characters cannot tell the two texts apart by their first character. -/
theorem startsWith_eq (h : Spreads text spread) {test : Char → Bool}
    (htest : ∀ {c}, isSkipped c = true → test c = false) :
    startsWith test spread = startsWith test text := by
  cases text with
  | nil =>
    obtain ⟨column, rfl⟩ := h
    rfl
  | cons c text =>
    by_cases htab : c = '\t'
    · subst htab
      obtain ⟨gap, rest, hgap, rfl, -⟩ := h.tab_cons
      rw [startsWith_append_of_isSpacing hgap htest, startsWith_cons, htest (by decide)]
    · obtain ⟨rest, rfl, -⟩ := cons htab h
      rfl

theorem eq_nil_iff (h : Spreads text spread) : spread = [] ↔ text = [] := by
  cases text with
  | nil =>
    obtain ⟨column, rfl⟩ := h
    exact Iff.rfl
  | cons c text =>
    refine ⟨fun hnil ↦ ?_, (nomatch ·)⟩
    by_cases htab : c = '\t'
    · subst htab
      obtain ⟨gap, rest, hgap, heq, -⟩ := h.tab_cons
      exact absurd (List.append_eq_nil_iff.1 (heq.symm.trans hnil)).1 hgap.nonempty
    · obtain ⟨rest, heq, -⟩ := cons htab h
      exact nomatch heq.symm.trans hnil

theorem isGap_iff (h : Spreads text spread) : IsGap spread ↔ IsGap text := by
  -- a text is a gap when skipping leaves nothing of it
  have hskip := h.skip.eq_nil_iff
  rwa [Source.skip, Source.skip, List.dropWhile_eq_nil_iff, List.dropWhile_eq_nil_iff] at hskip

end Spreads

/-! ### Tab-blind scanners -/

/-- The scanner takes the same value off a text and off the text with its tabs written out, and
leaves two texts that are related in the same way. -/
structure TabBlind {α : Type} (scan : Scanner α) : Prop where
  spread : ∀ {text spread : List Char} {a : α} {rest : List Char}, Spreads text spread →
    scan text = .ok (a, rest) → ∃ left, scan spread = .ok (a, left) ∧ Spreads rest left
  gather : ∀ {text spread : List Char} {a : α} {left : List Char}, Spreads text spread →
    scan spread = .ok (a, left) → ∃ rest, scan text = .ok (a, rest) ∧ Spreads rest left

/-- A computation that may stop gives a result exactly when both its halves do. -/
theorem bind_eq_ok_iff {ε α β : Type} {x : Except ε α} {f : α → Except ε β} {b : β} :
    (x >>= f) = .ok b ↔ ∃ a, x = .ok a ∧ f a = .ok b := by
  cases x with
  | error e => exact ⟨(nomatch ·), fun ⟨_, h, _⟩ ↦ nomatch h⟩
  | ok a => exact ⟨fun h ↦ ⟨a, rfl, h⟩, fun ⟨_, h, hb⟩ ↦ Except.ok.inj h ▸ hb⟩

/-- **A scanner for tokens is tab-blind**: tokens hold no tabs, and a tab ends a token just as the
spaces do that stand for it. -/
theorem Takes.tabBlind {α : Type} {scan : Scanner α} {IsToken : α → List Char → Prop}
    {glues : Char → Bool} (h : Takes scan IsToken glues) : TabBlind scan where
  spread {text spread a rest} hspread hscan := by
    obtain ⟨token, htoken, hskip, hrest⟩ := h.ok_iff.1 hscan
    obtain ⟨left, hleft, hspread⟩ :=
      (hskip ▸ hspread.skip).solid_append (h.isSolid htoken).isBlank
    refine ⟨left, h.ok_iff.2 ⟨token, htoken, hleft, ?_⟩, hspread⟩
    rw [hspread.startsWith_eq h.ends, hrest]
  gather {text spread a left} hspread hscan := by
    obtain ⟨token, htoken, hskip, hleft⟩ := h.ok_iff.1 hscan
    obtain ⟨rest, hrest, hspread⟩ :=
      (hskip ▸ hspread.skip).of_solid_append (h.isSolid htoken).isBlank
    refine ⟨rest, h.ok_iff.2 ⟨token, htoken, hrest, ?_⟩, hspread⟩
    rw [← hspread.startsWith_eq h.ends, hleft]

namespace TabBlind

variable {α β : Type}

theorem pure (a : α) : TabBlind fun text ↦ .ok (a, text) where
  spread {text spread b rest} hspread heq := by
    obtain ⟨rfl, rfl⟩ := Prod.mk.inj (Except.ok.inj heq)
    exact ⟨spread, rfl, hspread⟩
  gather {text spread b left} hspread heq := by
    obtain ⟨rfl, rfl⟩ := Prod.mk.inj (Except.ok.inj heq)
    exact ⟨text, rfl, hspread⟩

/-- One scanner after another. -/
theorem bind {scan : Scanner α} {next : α → Scanner β} (hscan : TabBlind scan)
    (hnext : ∀ a, TabBlind (next a)) :
    TabBlind fun text ↦ scan text >>= fun token ↦ next token.1 token.2 where
  spread {text spread b rest} hspread heq := by
    obtain ⟨⟨a, middle⟩, ha, hb⟩ := bind_eq_ok_iff.1 heq
    obtain ⟨middle', ha, hmiddle⟩ := hscan.spread hspread ha
    obtain ⟨left, hb, hleft⟩ := (hnext a).spread hmiddle hb
    exact ⟨left, bind_eq_ok_iff.2 ⟨_, ha, hb⟩, hleft⟩
  gather {text spread b left} hspread heq := by
    obtain ⟨⟨a, middle⟩, ha, hb⟩ := bind_eq_ok_iff.1 heq
    obtain ⟨middle', ha, hmiddle⟩ := hscan.gather hspread ha
    obtain ⟨rest, hb, hrest⟩ := (hnext a).gather hmiddle hb
    exact ⟨rest, bind_eq_ok_iff.2 ⟨_, ha, hb⟩, hrest⟩

end TabBlind

/-! ### Statements -/

theorem tabBlind_scanOperands (op : Opcode) : TabBlind (scanOperands op) := by
  have hregister := takes_scanRegister.tabBlind
  cases op with
  | arithmetic op => exact hregister.bind fun _ ↦ hregister.bind fun _ ↦ .pure _
  | mov => exact hregister.bind fun _ ↦ takes_scanInteger.tabBlind.bind fun _ ↦ .pure _
  | out => exact hregister.bind fun _ ↦ .pure _
  | jnz =>
    exact hregister.bind fun _ ↦ (takes_scanIdentifier .labelReference).tabBlind.bind fun _ ↦
      .pure _

/-- A label is scanned, or none stands there and the text is left alone. -/
theorem scanOptionalLabel_eq_iff {text rest : List Char} {label? : Option String} :
    scanOptionalLabel text = (label?, rest) ↔
      (∃ label, label? = some label ∧ scanLabel text = .ok (label, rest)) ∨
        label? = none ∧ rest = text ∧ ∀ token, scanLabel text ≠ .ok token := by
  rw [scanOptionalLabel]
  cases scanLabel text with
  | error e => simp [eq_comm]
  | ok token => simp [eq_comm, Prod.ext_iff, and_comm]

theorem tabBlind_scanOptionalLabel : TabBlind fun text ↦ .ok (scanOptionalLabel text) where
  spread {text spread label? rest} hspread heq := by
    have hcases := scanOptionalLabel_eq_iff.1 (Except.ok.inj heq)
    rcases hcases with ⟨label, rfl, hlabel⟩ | ⟨rfl, rfl, hno⟩
    · obtain ⟨left, hlabel, hleft⟩ := takes_scanLabel.tabBlind.spread hspread hlabel
      exact ⟨left, congrArg _ (scanOptionalLabel_eq_iff.2 (.inl ⟨label, rfl, hlabel⟩)), hleft⟩
    · -- no label appears because tabs are written out: it would be there without
      refine ⟨spread, congrArg _ (scanOptionalLabel_eq_iff.2 (.inr ⟨rfl, rfl, ?_⟩)), hspread⟩
      intro token htoken
      obtain ⟨rest', hlabel, -⟩ := takes_scanLabel.tabBlind.gather hspread htoken
      exact hno _ hlabel
  gather {text spread label? left} hspread heq := by
    have hcases := scanOptionalLabel_eq_iff.1 (Except.ok.inj heq)
    rcases hcases with ⟨label, rfl, hlabel⟩ | ⟨rfl, rfl, hno⟩
    · obtain ⟨rest, hlabel, hrest⟩ := takes_scanLabel.tabBlind.gather hspread hlabel
      exact ⟨rest, congrArg _ (scanOptionalLabel_eq_iff.2 (.inl ⟨label, rfl, hlabel⟩)), hrest⟩
    · refine ⟨text, congrArg _ (scanOptionalLabel_eq_iff.2 (.inr ⟨rfl, rfl, ?_⟩)), hspread⟩
      intro token htoken
      obtain ⟨left', hlabel, -⟩ := takes_scanLabel.tabBlind.spread hspread htoken
      exact hno _ hlabel

theorem tabBlind_scanStatement (op : Opcode) : TabBlind (scanStatement op) :=
  tabBlind_scanOptionalLabel.bind fun _ ↦
    ((takes_scanKeyword op).tabBlind.bind fun _ ↦ tabBlind_scanOperands op).bind fun _ ↦ .pure _

/-- A whole text is a statement when a gap is all that a statement leaves of it. -/
theorem readStatement_eq_ok_iff {op : Opcode} {text : List Char} {statement : Statement} :
    readStatement op text = .ok statement ↔
      ∃ rest, scanStatement op text = .ok (statement, rest) ∧ IsGap rest := by
  constructor
  · intro h
    obtain ⟨⟨statement', rest⟩, hscan, h⟩ := bind_eq_ok_iff.1 h
    obtain ⟨_, hend, heq⟩ := bind_eq_ok_iff.1 h
    obtain rfl := Except.ok.inj heq
    exact ⟨rest, hscan, (scanEnd_eq_ok_iff.1 hend).1⟩
  · rintro ⟨rest, hscan, hrest⟩
    exact bind_eq_ok_iff.2 ⟨_, hscan, bind_eq_ok_iff.2 ⟨_, scanEnd_eq_ok_iff.2 ⟨hrest, rfl⟩, rfl⟩⟩

/-- **Whether a text is a statement, and which one, does not depend on tabs.** -/
theorem readStatement_expandTabs {op : Opcode} {text : List Char} {statement : Statement} :
    readStatement op (expandTabs text) = .ok statement ↔ readStatement op text = .ok statement := by
  have hspread := spreads_expandTabs text
  rw [readStatement_eq_ok_iff, readStatement_eq_ok_iff]
  constructor
  · rintro ⟨left, hscan, hleft⟩
    obtain ⟨rest, hscan, hrest⟩ := (tabBlind_scanStatement op).gather hspread hscan
    exact ⟨rest, hscan, hrest.isGap_iff.1 hleft⟩
  · rintro ⟨rest, hscan, hrest⟩
    obtain ⟨left, hscan, hleft⟩ := (tabBlind_scanStatement op).spread hspread hscan
    exact ⟨left, hscan, hleft.isGap_iff.2 hrest⟩

end RegisterMachine.Source
