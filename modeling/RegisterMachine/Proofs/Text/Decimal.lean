import RegisterMachine.Text.Decimal

/-!
# Written numbers

A decimal text is made of digits and a sign, and tells its number. Whether a number can be written
is a matter of its length alone; a list of things, each with a number, is written to the end exactly
if none of them stops it.
-/

namespace RegisterMachine

open Text

/-! ### The text of a number -/

namespace Text

theorem isDigit_of_mem_repr {c : Char} {n : Nat} (h : c ∈ n.repr.toList) : c.isDigit = true := by
  rw [Nat.toList_repr] at h
  exact Nat.isDigit_of_mem_toDigits (by decide) (by decide) h

theorem mem_decimal {c : Char} {n : Int} (h : c ∈ (decimal n).toList) :
    c = '-' ∨ c.isDigit = true := by
  rw [decimal] at h
  split at h
  · rw [String.toList_append, List.mem_append] at h
    exact h.imp (by simp) isDigit_of_mem_repr
  · exact .inr (isDigit_of_mem_repr h)

/-- **The text of a number tells the number**: its sign by the first character, and its magnitude by
the digits. -/
theorem eq_of_decimal_eq {m n : Int} (h : decimal m = decimal n) : m = n := by
  have hmagnitude : ∀ {k l : Nat}, k.repr = l.repr → k = l := by
    intro k l hkl
    have hdigits : Nat.toDigits 10 k = Nat.toDigits 10 l := by
      rw [← Nat.toList_repr, hkl, Nat.toList_repr]
    rw [← Nat.ofDigitChars_ten_toDigits (n := k), hdigits, Nat.ofDigitChars_ten_toDigits]
  have hsign : ∀ k l : Nat, "-" ++ k.repr ≠ l.repr := by
    intro k l hkl
    have hmem : '-' ∈ l.repr.toList := by simp [← hkl]
    exact absurd (isDigit_of_mem_repr hmem) (by decide)
  simp only [decimal] at h
  split at h <;> split at h
  · have hmn := hmagnitude ((String.append_right_inj "-").1 h)
    omega
  · exact absurd h (hsign _ _)
  · exact absurd h.symm (hsign _ _)
  · have hmn := hmagnitude h
    omega

end Text

/-! ### Going through a list -/

/-- A list is gone through to its end exactly when no item stops it. -/
theorem exists_mapM_iff {ε α β : Type} {f : α → Except ε β} {items : List α} :
    (∃ results, items.mapM f = .ok results) ↔ ∀ a ∈ items, ∃ b, f a = .ok b := by
  induction items with
  | nil => simp [pure, Except.pure]
  | cons a rest ih =>
    rw [List.forall_mem_cons, ← ih, List.mapM_cons]
    cases f a with
    | error e => simp [bind, Except.bind]
    | ok b => cases List.mapM f rest <;> simp [bind, Except.bind, pure, Except.pure]

/-- A list that is gone through to its end has been gone through item by item. -/
theorem exists_of_mapM_cons {ε α β : Type} {f : α → Except ε β} {a : α} {rest : List α}
    {results : List β} (h : (a :: rest).mapM f = .ok results) :
    ∃ b others, f a = .ok b ∧ rest.mapM f = .ok others ∧ results = b :: others := by
  rw [List.mapM_cons] at h
  cases ha : f a with
  | error e => simp [ha, bind, Except.bind] at h
  | ok b =>
    cases hrest : rest.mapM f with
    | error e => simp [ha, hrest, bind, Except.bind] at h
    | ok others =>
      refine ⟨b, others, rfl, rfl, ?_⟩
      simpa [ha, hrest, bind, Except.bind, pure, Except.pure] using h.symm

/-- What stops a list is what stops one of its items. -/
theorem exists_of_mapM_eq_error {ε α β : Type} {f : α → Except ε β} {items : List α} {e : ε}
    (h : items.mapM f = .error e) : ∃ a ∈ items, f a = .error e := by
  induction items with
  | nil => cases h
  | cons a rest ih =>
    rw [List.mapM_cons] at h
    cases hfirst : f a with
    | error e' =>
      obtain rfl : e' = e := by simpa [hfirst, bind, Except.bind] using h
      exact ⟨a, List.mem_cons_self, hfirst⟩
    | ok b =>
      cases hrest : List.mapM f rest with
      | error e' =>
        obtain rfl : e' = e := by simpa [hfirst, hrest, bind, Except.bind] using h
        obtain ⟨a', hmem, herror⟩ := ih hrest
        exact ⟨a', List.mem_cons_of_mem a hmem, herror⟩
      | ok results => simp [hfirst, hrest, bind, Except.bind, pure, Except.pure] at h

/-- A list in which each item has a result has the list of the results. -/
theorem mapM_eq_ok_map {ε α β : Type} {f : α → Except ε β} {g : α → β} {items : List α}
    (h : ∀ a ∈ items, f a = .ok (g a)) : items.mapM f = .ok (items.map g) := by
  induction items with
  | nil => rfl
  | cons a rest ih =>
    obtain ⟨ha, hrest⟩ := List.forall_mem_cons.1 h
    rw [List.mapM_cons, ha, ih hrest]
    rfl

theorem exists_map_writeDecimal_iff {n : Int} {f : String → String} :
    (∃ text, (writeDecimal n).map f = .ok text) ↔ n.natAbs < digitBound := by
  by_cases h : n.natAbs < digitBound <;> simp [writeDecimal, Except.map, h]

end RegisterMachine
