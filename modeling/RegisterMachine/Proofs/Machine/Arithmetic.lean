import RegisterMachine.Machine.Step

/-!
# What arithmetic comes to

`op.Gives a b value` says what an arithmetic operation gives on the values of its two registers,
**without a division**: sum, difference and product are those of the integers, and a quotient is
the number that leaves a remainder smaller than the divisor which does not point away from the
dividend. So it is truncated toward zero. There is one such number if the divisor is not zero
(`Arithmetic.gives_div_iff`), and none if it is.

The machine divides the magnitudes and puts the sign on afterwards. In each of the four cases of the
two signs this comes to the truncated quotient (`quotient_eq_tdiv`).

An arithmetic instruction puts this number into its first register (`apply_arithmetic_exact`). It
reads both registers before it writes, so the two may be the same.
-/

namespace RegisterMachine

/-- **A sign that is put on afterwards truncates toward zero.** -/
theorem quotient_eq_tdiv (a b : Int) : quotient a b = a.tdiv b := by
  rw [quotient, Int.fdiv_eq_tdiv_of_nonneg (Int.natCast_nonneg _) (Int.natCast_nonneg _)]
  by_cases ha : a < 0
  · rw [Int.ofNat_natAbs_of_nonpos (Int.le_of_lt ha), Int.neg_tdiv]
    by_cases hb : b < 0
    · rw [Int.ofNat_natAbs_of_nonpos (Int.le_of_lt hb), Int.tdiv_neg]
      simp [ha, hb]
    · rw [Int.natAbs_of_nonneg (Int.not_lt.1 hb)]
      simp [ha, hb]
  · rw [Int.natAbs_of_nonneg (Int.not_lt.1 ha)]
    by_cases hb : b < 0
    · rw [Int.ofNat_natAbs_of_nonpos (Int.le_of_lt hb), Int.tdiv_neg]
      simp [ha, hb]
    · rw [Int.natAbs_of_nonneg (Int.not_lt.1 hb)]
      simp [ha, hb]

namespace Arithmetic

/-- What an operation gives on two integers. -/
inductive Gives : Arithmetic → Int → Int → Int → Prop
  | add (a b : Int) : Gives .add a b (a + b)
  | sub (a b : Int) : Gives .sub a b (a - b)
  | mul (a b : Int) : Gives .mul a b (a * b)
  /-- The remainder `r` is smaller than the divisor, and zero or of the sign of the dividend. -/
  | div {a b q r : Int} (heq : a = q * b + r) (hlt : r.natAbs < b.natAbs)
      (hsign : r = 0 ∨ r.sign = a.sign) : Gives .div a b q

/-! ### Quotients -/

/-- The remainder of a truncated division does not point away from the dividend. -/
theorem sign_tmod (a b : Int) : a.tmod b = 0 ∨ (a.tmod b).sign = a.sign := by
  rcases Int.lt_trichotomy a 0 with hneg | rfl | hpos
  · have hle : a.tmod b ≤ 0 := by
      have hnonneg := Int.tmod_nonneg b (by omega : 0 ≤ -a)
      rw [Int.neg_tmod] at hnonneg
      omega
    rcases Int.lt_or_eq_of_le hle with hlt | hzero
    · exact .inr ((Int.sign_eq_neg_one_of_neg hlt).trans (Int.sign_eq_neg_one_of_neg hneg).symm)
    · exact .inl hzero
  · exact .inl (Int.zero_tmod b)
  · rcases Int.lt_or_eq_of_le (Int.tmod_nonneg b (by omega : 0 ≤ a)) with hlt | hzero
    · exact .inr ((Int.sign_eq_one_of_pos hlt).trans (Int.sign_eq_one_of_pos hpos).symm)
    · exact .inl hzero.symm

/-- The truncated quotient is what a division gives. -/
theorem gives_tdiv (a : Int) {b : Int} (hb : b ≠ 0) : Gives .div a b (a.tdiv b) := by
  refine .div (Int.tdiv_mul_add_tmod a b).symm ?_ (sign_tmod a b)
  rw [Int.natAbs_tmod]
  exact Nat.mod_lt _ (Int.natAbs_pos.2 hb)

/-- Such a remainder lies on the side of the dividend. -/
theorem sameSide_of_sign {a r : Int} (h : r = 0 ∨ r.sign = a.sign) :
    (0 ≤ a → 0 ≤ r) ∧ (a ≤ 0 → r ≤ 0) := by
  rcases h with rfl | hsign
  · omega
  · rcases Int.lt_trichotomy a 0 with hneg | rfl | hpos
    · rw [Int.sign_eq_neg_one_of_neg hneg, Int.sign_eq_neg_one_iff_neg] at hsign
      omega
    · rw [Int.sign_zero, Int.sign_eq_zero_iff_zero] at hsign
      omega
    · rw [Int.sign_eq_one_of_pos hpos, Int.sign_eq_one_iff_pos] at hsign
      omega

/-- **A division gives one number.** Two remainders on the same side differ by less than the
divisor, and by a multiple of it. -/
theorem Gives.div_unique {a b q q' : Int} (h : Gives .div a b q) (h' : Gives .div a b q') :
    q = q' := by
  obtain ⟨⟩ | ⟨⟩ | ⟨⟩ | @⟨_, _, _, r, heq, hlt, hsign⟩ := h
  obtain ⟨⟩ | ⟨⟩ | ⟨⟩ | @⟨_, _, _, r', heq', hlt', hsign'⟩ := h'
  have hmultiple : r' - r = (q - q') * b := by
    rw [Int.sub_mul]
    omega
  have hsmall : (r' - r).natAbs < b.natAbs := by
    obtain ⟨hpos, hneg⟩ := sameSide_of_sign hsign
    obtain ⟨hpos', hneg'⟩ := sameSide_of_sign hsign'
    rcases Int.le_total 0 a with ha | ha <;> omega
  have hzero : r' - r = 0 :=
    Int.eq_zero_of_dvd_of_natAbs_lt_natAbs ⟨q - q', by rw [hmultiple, Int.mul_comm]⟩ hsmall
  have hb : b ≠ 0 := by
    rintro rfl
    omega
  rw [hzero] at hmultiple
  rcases Int.mul_eq_zero.1 hmultiple.symm with hq | hzero
  · omega
  · exact absurd hzero hb

theorem gives_div_iff {a b q : Int} (hb : b ≠ 0) : Gives .div a b q ↔ q = quotient a b := by
  rw [quotient_eq_tdiv]
  exact ⟨fun h ↦ h.div_unique (gives_tdiv a hb), fun h ↦ h ▸ gives_tdiv a hb⟩

/-! ### Operations -/

/-- **An operation computes what it gives**, and this is one number. -/
theorem exists_compute {op : Arithmetic} (result source : Register) {a b : Int}
    (h : op = .div → b ≠ 0) :
    ∃ outcome, op.compute result source a b = .ok outcome ∧
      ∀ value, op.Gives a b value ↔ value = outcome := by
  cases op with
  | add => exact ⟨a + b, rfl, fun value ↦ ⟨fun | .add _ _ => rfl, fun h ↦ h ▸ .add a b⟩⟩
  | sub => exact ⟨a - b, rfl, fun value ↦ ⟨fun | .sub _ _ => rfl, fun h ↦ h ▸ .sub a b⟩⟩
  | mul => exact ⟨a * b, rfl, fun value ↦ ⟨fun | .mul _ _ => rfl, fun h ↦ h ▸ .mul a b⟩⟩
  | div => exact ⟨quotient a b, if_neg (h rfl), fun value ↦ gives_div_iff (h rfl)⟩

end Arithmetic

/-- **Arithmetic is exact.** An arithmetic instruction, on any two registers, equal or not, whose
second one is not zero if they are to be divided, goes on to the next instruction. Its first
register then holds the one number that the operation gives on what the two registers held; every
other register, and all of the machine besides its registers, is as before. -/
theorem apply_arithmetic_exact (m : Machine) (op : Arithmetic) (result source : Register)
    (h : op = .div → m.registers.get source ≠ 0) :
    ∃ n, Operation.apply m (.arithmetic op result source) = (n, .ok .advance) ∧
      (∀ value, op.Gives (m.registers.get result) (m.registers.get source) value ↔
        value = n.registers.get result) ∧
      (∀ r, r ≠ result → n.registers.get r = m.registers.get r) ∧
      n = { m with registers := n.registers } := by
  obtain ⟨outcome, hcompute, hgives⟩ :=
    Arithmetic.exists_compute result source (a := m.registers.get result) h
  refine ⟨{ m with registers := m.registers.set result outcome }, ?_, ?_, fun r hr ↦ ?_, rfl⟩
  · simp only [Operation.apply, hcompute]
  · intro value
    rw [hgives, RegisterFile.get_set_self]
  · exact RegisterFile.get_set_of_ne _ hr.symm _

/-- A quotient of different signs, and one of a register by itself. -/
theorem apply_arithmetic_exact_of_negative :
    let m : Machine := { registers := (RegisterFile.zero.set .eax (-7)).set .ebx 2 }
    (∃ n, Operation.apply m (.arithmetic .div .eax .ebx) = (n, .ok .advance) ∧
      n.registers.get .eax = -3 ∧ n.registers.get .ebx = 2) ∧
    ∃ n, Operation.apply m (.arithmetic .div .eax .eax) = (n, .ok .advance) ∧
      n.registers.get .eax = 1 := by
  intro m
  have heax : m.registers.get .eax = -7 := by decide
  have hebx : m.registers.get .ebx = 2 := by decide
  obtain ⟨n, happly, hgives, hothers, -⟩ :=
    apply_arithmetic_exact m .div .eax .ebx fun _ ↦ by rw [hebx]; decide
  obtain ⟨n', happly', hgives', -⟩ :=
    apply_arithmetic_exact m .div .eax .eax fun _ ↦ by rw [heax]; decide
  rw [heax] at hgives hgives'
  rw [hebx] at hgives
  refine ⟨⟨n, happly, ?_, ?_⟩, n', happly', ?_⟩
  · have hquotient : Arithmetic.Gives .div (-7) 2 (-3) :=
      .div (r := -1) (by decide) (by decide) (by decide)
    exact ((hgives _).1 hquotient).symm
  · exact (hothers .ebx (by decide)).trans hebx
  · have hquotient : Arithmetic.Gives .div (-7) (-7) 1 :=
      .div (r := 0) (by decide) (by decide) (by decide)
    exact ((hgives' _).1 hquotient).symm

end RegisterMachine
