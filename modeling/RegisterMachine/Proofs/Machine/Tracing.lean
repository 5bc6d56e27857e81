import RegisterMachine.Proofs.Machine.Endings
import RegisterMachine.Proofs.Text.Decimal

/-!
# Runs with a trace

A trace is written to the log after every step, and nothing else of the machine depends on it or on
the log. So a machine runs in step with its *quiet* copy, which has no trace and an empty log
(`Machine.quiet`), with **one difference**: a state whose program counter and registers cannot all
be written (`Machine.IsShowable`) breaks a traced run off, where the quiet one goes on.

One round is compared in `Machine.round_quiet_cases`, and a whole run in
`Machine.exists_run_quiet_iff`: a traced run comes as far as the quiet one exactly if it can show
every state on the way. Hence it has the ending of the quiet run, unless it is broken off
(`Machine.exists_ends_quiet_iff`).

So a trace is **not always harmless**. A program ends alike with it and without it if every state
can be shown, and is broken off in the first state that cannot be shown (`trace_effect`).
-/

namespace RegisterMachine

open Text

/-! ### What can be written -/

/-- The registers are written exactly when all of them hold short numbers. -/
theorem RegisterFile.exists_writeEntries_iff (file : RegisterFile) (mark : String) :
    (∃ texts, file.writeEntries mark = .ok texts) ↔ file.IsShort := by
  rw [writeEntries, exists_mapM_iff, IsShort]
  simp only [entries, List.forall_mem_map, exists_map_writeDecimal_iff]
  exact ⟨fun h r ↦ h r (Register.mem_all r), fun h r _ ↦ h r⟩

theorem RegisterFile.eq_writing_of_writeEntries {file : RegisterFile} {mark : String}
    {e : DigitError} (h : file.writeEntries mark = .error e) : e = .writing := by
  obtain ⟨⟨r, value⟩, -, hvalue⟩ := exists_of_mapM_eq_error h
  cases hwrite : writeDecimal value with
  | ok text => simp [hwrite, Except.map] at hvalue
  | error e' =>
    obtain rfl : e' = e := by simpa [hwrite, Except.map] using hvalue
    exact (writeDecimal_eq_error_iff.1 hwrite).2

theorem RegisterFile.exists_write_iff {file : RegisterFile} :
    (∃ text, file.write = .ok text) ↔ file.IsShort := by
  rw [← file.exists_writeEntries_iff " = ", write]
  cases file.writeEntries " = " <;> simp [Except.map]

namespace Machine

/-- The program counter and the registers can be written. -/
structure IsShowable (m : Machine) : Prop where
  pc : m.pc.natAbs < digitBound
  registers : m.registers.IsShort

theorem exists_dumpText_iff {m : Machine} : (∃ text, m.dumpText = .ok text) ↔ m.IsShowable := by
  have hregisters := m.registers.exists_writeEntries_iff ":"
  rw [dumpText, writeDecimal]
  by_cases hpc : m.pc.natAbs < digitBound
  · have hshow : m.IsShowable ↔ m.registers.IsShort := ⟨fun h ↦ h.registers, fun h ↦ ⟨hpc, h⟩⟩
    rw [if_pos hpc, hshow, ← hregisters]
    cases m.registers.writeEntries ":" <;> simp [bind, Except.bind, pure, Except.pure]
  · rw [if_neg hpc]
    refine ⟨?_, fun h ↦ absurd h.pc hpc⟩
    rintro ⟨_, h⟩
    cases h

/-- What cannot be shown is too long. -/
theorem dumpText_of_not_isShowable {m : Machine} (h : ¬m.IsShowable) :
    m.dumpText = .error .writing := by
  cases htext : m.dumpText with
  | ok text => exact absurd (exists_dumpText_iff.1 ⟨text, htext⟩) h
  | error e =>
    refine congrArg _ ?_
    rw [dumpText] at htext
    cases hpc : writeDecimal m.pc with
    | error e' =>
      obtain rfl : e' = e := by simpa [hpc, bind, Except.bind] using htext
      exact (writeDecimal_eq_error_iff.1 hpc).2
    | ok pc =>
      cases hentries : m.registers.writeEntries ":" with
      | error e' =>
        obtain rfl : e' = e := by simpa [hpc, hentries, bind, Except.bind] using htext
        exact RegisterFile.eq_writing_of_writeEntries hentries
      | ok texts => simp [hpc, hentries, bind, Except.bind, pure, Except.pure] at htext

/-! ### Quiet machines -/

/-- The machine without its trace and its log. -/
def quiet (m : Machine) : Machine := { m with trace := false, log := #[] }

@[simp] theorem registers_quiet (m : Machine) : m.quiet.registers = m.registers := rfl

@[simp] theorem labels_quiet (m : Machine) : m.quiet.labels = m.labels := rfl

theorem emit_quiet (m : Machine) (text : String) :
    m.quiet.emit text = ((m.emit text).1.quiet, (m.emit text).2) := by
  simp only [emit, quiet]
  cases m.sink (m.offered.push text) <;> rfl

@[simp] theorem trace_emit (m : Machine) (text : String) : (m.emit text).1.trace = m.trace := by
  simp only [emit]
  cases m.sink (m.offered.push text) <;> rfl

end Machine

theorem Operation.apply_quiet (m : Machine) (operation : Operation) :
    operation.apply m.quiet = ((operation.apply m).1.quiet, (operation.apply m).2) := by
  cases operation with
  | arithmetic op result source =>
    simp only [apply, Machine.registers_quiet]
    cases op.compute result source (m.registers.get result) (m.registers.get source) <;> rfl
  | mov result value => rfl
  | out source =>
    simp only [apply, Machine.registers_quiet, Machine.emit_quiet]
    cases writeDecimal (m.registers.get source) with
    | error e => rfl
    | ok text => rcases hemit : m.emit text with ⟨n, - | f⟩ <;> simp only [hemit]
  | jnz source target =>
    simp only [apply, Machine.registers_quiet, Machine.labels_quiet]
    by_cases hzero : m.registers.get source = 0 <;> simp only [hzero, if_true, if_false]
  | draft kind => rfl

theorem Operation.trace_apply (m : Machine) (operation : Operation) :
    (operation.apply m).1.trace = m.trace := by
  cases operation with
  | arithmetic op result source =>
    simp only [apply]
    cases op.compute result source (m.registers.get result) (m.registers.get source) <;> rfl
  | mov result value => rfl
  | out source =>
    simp only [apply]
    cases writeDecimal (m.registers.get source) with
    | error e => rfl
    | ok text =>
      have htrace := m.trace_emit text
      rcases hemit : m.emit text with ⟨n, - | f⟩ <;> simpa [hemit] using htrace
  | jnz source target =>
    simp only [apply]
    split <;> rfl
  | draft kind => rfl

namespace Machine

variable {m n : Machine}

theorem quiet_follow (m : Machine) (transfer : Transfer) :
    (m.follow transfer).quiet = m.quiet.follow transfer := by
  cases transfer <;> rfl

@[simp] theorem trace_follow (m : Machine) (transfer : Transfer) :
    (m.follow transfer).trace = m.trace := by
  cases transfer <;> rfl

theorem quiet_afterFailure (m : Machine) (f : Failure) :
    (m.afterFailure f).quiet = m.quiet.afterFailure f := by
  unfold afterFailure
  split <;> rfl

theorem isShowable_quiet_iff : m.quiet.IsShowable ↔ m.IsShowable :=
  ⟨fun h ↦ ⟨h.pc, h.registers⟩, fun h ↦ ⟨h.pc, h.registers⟩⟩

/-- Writing a trace goes unnoticed, if the state can be shown. -/
theorem exists_traced (h : m.trace = true → m.IsShowable) :
    ∃ n, m.traced = (n, none) ∧ n.quiet = m.quiet ∧ n.trace = m.trace := by
  rw [traced]
  split
  next htrace =>
    obtain ⟨text, htext⟩ := exists_dumpText_iff.2 (h htrace)
    exact ⟨m.note (.debug text), by rw [dump, htext], rfl, rfl⟩
  next => exact ⟨m, rfl, rfl, rfl⟩

/-- A trace that cannot be written is a failure. -/
theorem traced_of_not_isShowable (htrace : m.trace = true) (h : ¬m.IsShowable) :
    m.traced = (m, some (.digits .writing)) := by
  rw [traced, if_pos htrace, dump, dumpText_of_not_isShowable h]

/-! ### One round -/

/-- A step up to its trace: it fails as the quiet one does, or comes to the same state. -/
theorem step_quiet_cases (m : Machine) :
    (∃ n f, m.step = (n, some f) ∧ m.quiet.step = (n.quiet, some f)) ∨
      ∃ n : Machine, m.step = n.traced ∧ m.quiet.step = (n.quiet, none) ∧ n.trace = m.trace := by
  cases hfetch : m.fetch? with
  | none =>
    have hquiet : m.quiet.fetch? = none := hfetch
    exact .inl ⟨m, m.fetchFailure, by simp only [step, hfetch], by simp only [step, hquiet]; rfl⟩
  | some i =>
    have hquiet : m.quiet.fetch? = some i := hfetch
    have happly' := i.operation.apply_quiet m
    have htrace := i.operation.trace_apply m
    rcases happly : i.operation.apply m with ⟨n, f | transfer⟩
    · rw [happly] at happly'
      exact .inl ⟨n, f, by simp only [step, hfetch, happly], by simp only [step, hquiet, happly']⟩
    · rw [happly] at happly' htrace
      refine .inr ⟨n.follow transfer, by simp only [step, hfetch, happly], ?_,
        (n.trace_follow transfer).trans htrace⟩
      simp only [step, hquiet, happly', ← quiet_follow]
      rfl

/-- **A round and a quiet round**: both end, alike; or both go on, in the same state; or the round
is broken off in the state to which the quiet one goes on, because it cannot be shown. -/
theorem round_quiet_cases (m : Machine) :
    (∃ n f?, m.round = .ended n f? ∧ m.quiet.round = .ended n.quiet f?) ∨
    (∃ n, m.round = .running n ∧ m.quiet.round = .running n.quiet ∧ n.trace = m.trace ∧
      (m.trace = true → n.IsShowable)) ∨
    ∃ n, m.round = .ended n (some (.digits .writing)) ∧ m.quiet.round = .running n.quiet ∧
      m.trace = true ∧ ¬n.IsShowable := by
  by_cases hinside : m.isInside = true
  · have hquiet : m.quiet.isInside = true := hinside
    rw [round, if_pos hinside, round, if_pos hquiet]
    rcases m.step_quiet_cases with ⟨n, f, hstep, hstep'⟩ | ⟨n, hstep, hstep', htrace⟩
    · rw [hstep, hstep']
      exact .inl ⟨_, some f, rfl, by rw [quiet_afterFailure]⟩
    · rw [hstep, hstep']
      by_cases hshow : m.trace = true → n.IsShowable
      · obtain ⟨n', htraced, hsame, htrace'⟩ := exists_traced (htrace ▸ hshow)
        rw [htraced, ← hsame]
        refine .inr (.inl ⟨n', rfl, rfl, htrace'.trans htrace, fun hon ↦ ?_⟩)
        rw [← isShowable_quiet_iff, hsame, isShowable_quiet_iff]
        exact hshow hon
      · obtain ⟨hon, hno⟩ := Classical.not_imp.1 hshow
        rw [traced_of_not_isShowable (htrace.trans hon) hno]
        exact .inr (.inr ⟨n, rfl, rfl, hon, hno⟩)
  · have hquiet : ¬m.quiet.isInside = true := hinside
    rw [round, if_neg hinside, round, if_neg hquiet]
    exact .inl ⟨_, none, rfl, rfl⟩

/-! ### Whole runs -/

theorem trace_of_run {k : Nat} (h : m.run k = .running n) : n.trace = m.trace := by
  induction k generalizing n with
  | zero => exact Progress.running.inj h ▸ rfl
  | succ k ih =>
    obtain ⟨s, hrun, hround⟩ := run_succ_eq_running_iff.1 h
    rcases s.round_quiet_cases with ⟨_, _, hs, -⟩ | ⟨n', hs, -, htrace, -⟩ | ⟨_, hs, -⟩
    · exact nomatch hs.symm.trans hround
    · obtain rfl := Progress.running.inj (hs.symm.trans hround)
      exact htrace.trans (ih hrun)
    · exact nomatch hs.symm.trans hround

/-- **A run comes as far as the quiet one**, to the same state, exactly if it can show every state
on the way. -/
theorem exists_run_quiet_iff {k : Nat} :
    (∃ s, m.run k = .running s ∧ s.quiet = n) ↔
      m.quiet.run k = .running n ∧ (m.trace = true →
        ∀ j s, 0 < j → j ≤ k → m.quiet.run j = .running s → s.IsShowable) := by
  induction k generalizing n with
  | zero =>
    simp only [run_zero, Progress.running.injEq, exists_eq_left']
    exact ⟨fun h ↦ ⟨h, fun _ j _ hpos hle ↦ absurd hpos (by omega)⟩, And.left⟩
  | succ k ih =>
    constructor
    · rintro ⟨n', hrun, rfl⟩
      obtain ⟨s, hs, hround⟩ := run_succ_eq_running_iff.1 hrun
      obtain ⟨hquiet, hshow⟩ := ih.1 ⟨s, hs, rfl⟩
      rcases s.round_quiet_cases with ⟨_, _, hs', -⟩ | ⟨t, hs', hnext, -, hlast⟩ | ⟨_, hs', -⟩
      · exact nomatch hs'.symm.trans hround
      · obtain rfl := Progress.running.inj (hs'.symm.trans hround)
        have hquiet' := run_succ_eq_running_iff.2 ⟨_, hquiet, hnext⟩
        refine ⟨hquiet', fun hon j t' hpos hle hj ↦ ?_⟩
        rcases Nat.lt_or_eq_of_le hle with hlt | rfl
        · exact hshow hon j t' hpos (by omega) hj
        · obtain rfl := Progress.running.inj (hquiet'.symm.trans hj)
          exact isShowable_quiet_iff.2 (hlast ((trace_of_run hs).trans hon))
      · exact nomatch hs'.symm.trans hround
    · rintro ⟨hrun, hshow⟩
      obtain ⟨_, hquiet, hround⟩ := run_succ_eq_running_iff.1 hrun
      obtain ⟨s, hs, rfl⟩ := ih.2 ⟨hquiet, fun hon j t hpos hle ↦ hshow hon j t hpos (by omega)⟩
      rcases s.round_quiet_cases with
        ⟨_, _, -, hs'⟩ | ⟨t, hnext, hs', -⟩ | ⟨t, -, hs', hon, hno⟩
      · exact nomatch hs'.symm.trans hround
      · obtain rfl := Progress.running.inj (hs'.symm.trans hround)
        exact ⟨t, run_succ_eq_running_iff.2 ⟨s, hs, hnext⟩, rfl⟩
      · obtain rfl := Progress.running.inj (hs'.symm.trans hround)
        have hlast := hshow ((trace_of_run hs).symm.trans hon) _ _ k.succ_pos le_rfl hrun
        exact absurd (isShowable_quiet_iff.1 hlast) hno

theorem isShowable_start (m : Machine) : m.start.IsShowable where
  pc := digitBound_pos
  registers r := by
    simp only [start, RegisterFile.get_zero]
    exact digitBound_pos

/-- **A run without a trace goes through the states of the quiet one.** -/
theorem exists_execute_quiet_iff (htrace : m.trace = false) {k : Nat} :
    (∃ s, m.execute k = .running s ∧ s.quiet = n) ↔ m.quiet.execute k = .running n := by
  have hoff : ¬m.start.trace = true := by simp [start, htrace]
  exact (exists_run_quiet_iff (m := m.start)).trans (and_iff_left fun hon ↦ absurd hon hoff)

theorem forall_isShowable_quiet_iff (htrace : m.trace = false) :
    (∀ k s, m.quiet.execute k = .running s → s.IsShowable) ↔
      ∀ k s, m.execute k = .running s → s.IsShowable := by
  refine forall_congr' fun k ↦ ⟨fun h s hs ↦ ?_, fun h t ht ↦ ?_⟩
  · exact isShowable_quiet_iff.1 (h _ ((exists_execute_quiet_iff htrace).1 ⟨s, hs, rfl⟩))
  · obtain ⟨s, hs, rfl⟩ := (exists_execute_quiet_iff htrace).2 ht
    exact isShowable_quiet_iff.2 (h s hs)

/-- **A program ends as it does quietly**, and all states on the way can be shown, **or it is broken
off** in a state of the quiet run that cannot be shown. -/
theorem Ends.quiet_cases {f? : Option Failure} (h : m.Ends n f?) :
    m.quiet.Ends n.quiet f? ∧
        (m.trace = true → ∀ k s, m.quiet.execute k = .running s → s.IsShowable) ∨
      m.trace = true ∧ f? = some (.digits .writing) ∧ ¬n.IsShowable ∧
        ∃ k, m.quiet.execute k = .running n.quiet := by
  obtain ⟨k, s, hrun, hround⟩ := exists_run_eq_ended_iff.1 h
  obtain ⟨hquiet, hshow⟩ := exists_run_quiet_iff.1 ⟨s, hrun, rfl⟩
  rcases s.round_quiet_cases with ⟨_, _, hs, hend⟩ | ⟨_, hs, -⟩ | ⟨_, hs, hnext, hon, hno⟩
  · obtain ⟨rfl, rfl⟩ := Progress.ended.inj (hs.symm.trans hround)
    refine .inl ⟨Ends.of_round hquiet hend, fun hon j t hj ↦ ?_⟩
    rcases Nat.eq_zero_or_pos j with rfl | hpos
    · exact Progress.running.inj hj ▸ m.quiet.isShowable_start
    · refine hshow hon j t hpos ?_ hj
      by_contra hlate
      have hended := (run_succ_of_running hquiet).trans hend
      exact nomatch (run_eq_ended_of_le (by omega : k + 1 ≤ j) hended).symm.trans hj
  · exact nomatch hs.symm.trans hround
  · obtain ⟨rfl, rfl⟩ := Progress.ended.inj (hs.symm.trans hround)
    exact .inr ⟨(trace_of_run hrun).symm.trans hon, rfl, hno, k + 1,
      run_succ_eq_running_iff.2 ⟨_, hquiet, hnext⟩⟩

/-- As a program ends quietly, it ends, if all states on the way can be shown. -/
theorem Ends.exists_of_quiet {f? : Option Failure} (h : m.quiet.Ends n f?)
    (hshow : m.trace = true → ∀ k s, m.quiet.execute k = .running s → s.IsShowable) :
    ∃ n', m.Ends n' f? ∧ n'.quiet = n := by
  obtain ⟨k, _, hquiet, hround⟩ := exists_run_eq_ended_iff.1 h
  obtain ⟨s, hs, rfl⟩ := exists_run_quiet_iff (m := m.start).2
    ⟨hquiet, fun hon j t _ _ hj ↦ hshow hon j t hj⟩
  rcases s.round_quiet_cases with ⟨n', f?', hs', hend⟩ | ⟨_, -, hs', -⟩ | ⟨_, -, hs', -⟩
  · obtain ⟨rfl, rfl⟩ := Progress.ended.inj (hend.symm.trans hround)
    exact ⟨n', Ends.of_round hs hs', rfl⟩
  · exact nomatch hs'.symm.trans hround
  · exact nomatch hs'.symm.trans hround

/-- The first state that cannot be shown is where a run with a trace is broken off. -/
theorem exists_ends_of_not_isShowable (htrace : m.trace = true) {k : Nat}
    (hrun : m.quiet.execute k = .running n) (hno : ¬n.IsShowable)
    (hearlier : ∀ j t, j < k → m.quiet.execute j = .running t → t.IsShowable) :
    ∃ n', m.Ends n' (some (.digits .writing)) ∧ n'.quiet = n := by
  cases k with
  | zero =>
    obtain rfl := Progress.running.inj hrun
    exact absurd m.quiet.isShowable_start hno
  | succ k =>
    obtain ⟨_, hquiet, hround⟩ := run_succ_eq_running_iff.1 hrun
    obtain ⟨s, hs, rfl⟩ := exists_run_quiet_iff (m := m.start).2
      ⟨hquiet, fun _ j t _ hle hj ↦ hearlier j t (Nat.lt_succ_of_le hle) hj⟩
    rcases s.round_quiet_cases with ⟨_, _, -, hs'⟩ | ⟨t, -, hs', -, hshow⟩ | ⟨t, hend, hs', -⟩
    · exact nomatch hs'.symm.trans hround
    · obtain rfl := Progress.running.inj (hs'.symm.trans hround)
      exact absurd (isShowable_quiet_iff.2 (hshow ((trace_of_run hs).trans htrace))) hno
    · obtain rfl := Progress.running.inj (hs'.symm.trans hround)
      exact ⟨t, Ends.of_round hs hend, rfl⟩

/-- Only the failure to show a state may be an ending that the quiet run does not have. -/
theorem exists_ends_quiet_iff {f? : Option Failure} (hf : ∀ e, f? ≠ some (.digits e)) :
    (∃ n', m.Ends n' f? ∧ n'.quiet = n) ↔
      m.quiet.Ends n f? ∧
        (m.trace = true → ∀ k s, m.quiet.execute k = .running s → s.IsShowable) := by
  constructor
  · rintro ⟨n', hends, rfl⟩
    rcases hends.quiet_cases with hquiet | ⟨-, hdigits, -⟩
    · exact hquiet
    · exact absurd hdigits (hf _)
  · rintro ⟨hends, hshow⟩
    exact hends.exists_of_quiet hshow

/-- **Two machines with the same quiet copy, of which the second has no trace, have the same
endings**, unless the first cannot show a state on the way. -/
theorem exists_ends_iff_of_quiet_eq {m' : Machine} (hquiet : m'.quiet = m.quiet)
    (htrace : m.trace = false) {f? : Option Failure} (hf : ∀ e, f? ≠ some (.digits e))
    {P : Machine → Prop} (hP : ∀ n, P n ↔ P n.quiet) :
    (∃ n, m'.Ends n f? ∧ P n) ↔
      (∃ n, m.Ends n f? ∧ P n) ∧
        (m'.trace = true → ∀ k s, m.execute k = .running s → s.IsShowable) := by
  have hends : ∀ {m : Machine}, (∃ n, m.Ends n f? ∧ P n) ↔
      ∃ q, (∃ n, m.Ends n f? ∧ n.quiet = q) ∧ P q := by
    refine ⟨fun ⟨n, h, hn⟩ ↦ ⟨n.quiet, ⟨n, h, rfl⟩, (hP n).1 hn⟩, ?_⟩
    rintro ⟨_, ⟨n, h, rfl⟩, hn⟩
    exact ⟨n, h, (hP n).2 hn⟩
  rw [hends, hends]
  simp only [exists_ends_quiet_iff hf, hquiet, forall_isShowable_quiet_iff htrace, htrace,
    Bool.false_eq_true, false_imp_iff, and_true]
  constructor
  · rintro ⟨q, ⟨h, hshow⟩, hq⟩
    exact ⟨⟨q, h, hq⟩, hshow⟩
  · rintro ⟨⟨q, h, hq⟩, hshow⟩
    exact ⟨q, ⟨h, hshow⟩, hq⟩

/-! ### The same machine with and without a trace -/

/-- The machine with its trace switched on or off. -/
def withTrace (m : Machine) (trace : Bool) : Machine := { m with trace }

/-- The program ends with this failure, if any, in this state but for its trace and log. -/
def EndsAs (m n : Machine) (f? : Option Failure) : Prop := ∃ s, m.Ends s f? ∧ s.quiet = n.quiet

/-- Both programs run forever, or both end in the same way: with the same failure, if any, and in
the same state but for trace and log. -/
def EndsLike (m m' : Machine) : Prop := ∀ n f?, m.EndsAs n f? ↔ m'.EndsAs n f?

theorem EndsAs.congr {m' s : Machine} {f? f?' : Option Failure} (h : m.EndsAs s f?)
    (h' : m'.EndsAs s f?) (hn : m.EndsAs n f?') : m'.EndsAs n f?' := by
  obtain ⟨s₁, hends₁, hs₁⟩ := h
  obtain ⟨s₂, hends₂, hs₂⟩ := hn
  obtain ⟨rfl, rfl⟩ := hends₁.unique hends₂
  obtain ⟨s₃, hends₃, hs₃⟩ := h'
  exact ⟨s₃, hends₃, hs₃.trans (hs₁.symm.trans hs₂)⟩

theorem EndsAs.endsLike {m' s : Machine} {f? : Option Failure} (h : m.EndsAs s f?)
    (h' : m'.EndsAs s f?) : m.EndsLike m' :=
  fun _ _ ↦ ⟨h.congr h', h'.congr h⟩

/-- If all states can be shown, a trace goes unnoticed. -/
theorem endsLike_withTrace (hshow : ∀ k s, (m.withTrace false).execute k = .running s →
    s.IsShowable) : (m.withTrace true).EndsLike (m.withTrace false) := by
  have hstates : ∀ k s, m.quiet.execute k = .running s → s.IsShowable :=
    (forall_isShowable_quiet_iff (m := m.withTrace false) rfl).2 hshow
  intro n f?
  constructor
  · rintro ⟨s, hends, hs⟩
    rcases hends.quiet_cases with ⟨hquiet, -⟩ | ⟨-, -, hno, k, hrun⟩
    · obtain ⟨t, ht, hsame⟩ := Ends.exists_of_quiet (m := m.withTrace false) hquiet nofun
      exact ⟨t, ht, hsame.trans hs⟩
    · exact absurd (isShowable_quiet_iff.1 (hstates k _ hrun)) hno
  · rintro ⟨s, hends, hs⟩
    rcases hends.quiet_cases with ⟨hquiet, -⟩ | ⟨hoff, -⟩
    · obtain ⟨t, ht, hsame⟩ := Ends.exists_of_quiet (m := m.withTrace true) hquiet fun _ ↦ hstates
      exact ⟨t, ht, hsame.trans hs⟩
    · exact nomatch hoff

end Machine

open Machine

/-- **What a trace does to a run.** If every state that a program goes through can be shown, then it
ends with a trace as it does without one: both run forever, or both end with the same failure or
none, with the same output and in the same state. If not, then with a trace it is broken off in the
first state that cannot be shown, because the program counter or a register is too long to be
written; and this is the ending that it has without a trace only if it breaks off there by itself,
for the same reason. -/
theorem trace_effect (m : Machine) :
    ((∀ k s, (m.withTrace false).execute k = .running s → s.IsShowable) →
      (m.withTrace true).EndsLike (m.withTrace false)) ∧
    ∀ k s, (m.withTrace false).execute k = .running s → ¬s.IsShowable →
      (∀ j t, j < k → (m.withTrace false).execute j = .running t → t.IsShowable) →
      (m.withTrace true).EndsAs s (some (.digits .writing)) ∧
      ((m.withTrace true).EndsLike (m.withTrace false) ↔
        (m.withTrace false).EndsAs s (some (.digits .writing))) := by
  refine ⟨endsLike_withTrace, fun k s hrun hno hearlier ↦ ?_⟩
  have hquiet : ∀ {j t}, (m.withTrace false).execute j = .running t →
      m.quiet.execute j = .running t.quiet :=
    fun {_ t} ht ↦ (exists_execute_quiet_iff (m := m.withTrace false) rfl).1 ⟨t, ht, rfl⟩
  have hbroken : (m.withTrace true).EndsAs s (some (.digits .writing)) := by
    refine exists_ends_of_not_isShowable (m := m.withTrace true) rfl (hquiet hrun)
      (isShowable_quiet_iff.not.2 hno) fun j t hlt ht ↦ ?_
    obtain ⟨t', ht', rfl⟩ := (exists_execute_quiet_iff (m := m.withTrace false) rfl).2 ht
    exact isShowable_quiet_iff.2 (hearlier j t' hlt ht')
  exact ⟨hbroken, fun hlike ↦ (hlike s _).1 hbroken, hbroken.endsLike⟩

/-- A number that is too long is moved, and nothing is done with it: the run halts normally, but not
with a trace. -/
theorem trace_effect_of_long_register :
    let m : Machine := { program := #[⟨none, .mov .eax digitBound⟩] }
    let s := m.start.assign .eax digitBound
    (m.withTrace false).Ends (s.halt .normal) none ∧
      (m.withTrace true).EndsAs s (some (.digits .writing)) ∧ s.status = .running ∧
      ¬(m.withTrace true).EndsLike (m.withTrace false) := by
  intro m s
  have hmov : m.start.StandsAt (.mov .eax digitBound) := ⟨0, _, rfl, rfl, rfl⟩
  have hrun : m.execute 1 = .running s :=
    (run_succ_of_running (m.start.run_zero)).trans (round_of_apply_ok hmov rfl rfl)
  have hends : (m.withTrace false).Ends (s.halt .normal) none :=
    Ends.of_round (m := m) hrun (round_of_outside rfl)
  have hno : ¬s.IsShowable := fun hshow ↦ by simpa [s, assign] using hshow.registers .eax
  have hbroken : (m.withTrace true).EndsAs s (some (.digits .writing)) := by
    refine exists_ends_of_not_isShowable (m := m.withTrace true) (k := 1) rfl
      ((exists_execute_quiet_iff (m := m) rfl).1 ⟨s, hrun, rfl⟩)
      (isShowable_quiet_iff.not.2 hno) fun j t hlt ht ↦ ?_
    obtain rfl : j = 0 := by omega
    exact Progress.running.inj ht ▸ isShowable_start _
  refine ⟨hends, hbroken, rfl, fun hlike ↦ ?_⟩
  obtain ⟨t, hdigits, -⟩ := (hlike s _).1 hbroken
  exact Option.some_ne_none _ (hends.unique hdigits).2.symm

end RegisterMachine
