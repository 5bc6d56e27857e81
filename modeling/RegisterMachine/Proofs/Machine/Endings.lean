import RegisterMachine.Proofs.Machine.Rules

/-!
# How a run ends

A run of a plain machine with short numbers has **three endings and no other**: it halts normally
where the program counter has left the program, or it halts with a fault at a jump that is taken to
a label that is not bound, or at a division by zero. In each case the machine is left as the rules
brought it there, and only its status tells the end (`execute_endings`). A label is looked up when
a jump to it is taken and at no other time, so a label that no taken jump looks up may be bound
anywhere or nowhere (`Machine.IsPlain.ends_withLabels_iff`).

Where numbers may be long, a division by zero need not end in a fault: the fault shows its
operands, and a dividend that is too long to be shown breaks the run off instead, with the machine
still running. That this is the only exception, and what becomes of the machine in either case, is
`division_by_zero`.
-/

namespace RegisterMachine

open Text

namespace Machine

variable {m n : Machine}

/-- The program, executed from its start, ends with this machine and this failure, if any. -/
def Ends (m n : Machine) (f? : Option Failure) : Prop := ∃ rounds, m.execute rounds = .ended n f?

/-! ### Labels are looked up late -/

/-- The machine with other labels. -/
def withLabels (m : Machine) (labels : LabelTable) : Machine := { m with labels }

theorem Advances.withLabels (h : m.Advances n) (labels : LabelTable)
    (hagree : ∀ target, m.JumpsTo target → labels.get? target = m.labels.get? target) :
    (m.withLabels labels).Advances (n.withLabels labels) := by
  cases h with
  | add h => exact .add h
  | sub h => exact .sub h
  | mul h => exact .mul h
  | div h hne => exact .div h hne
  | mov h => exact .mov h
  | out h => exact .out h
  | pass h hzero => exact .pass h hzero
  | jump h hne hbound => exact .jump h hne ((hagree _ ⟨_, h, hne⟩).trans hbound)

theorem Stops.withLabels {f? : Option Failure} (h : m.Stops f?) (labels : LabelTable)
    (hagree : ∀ target, m.JumpsTo target → labels.get? target = m.labels.get? target) :
    (m.withLabels labels).Stops f? := by
  cases h with
  | outside h => exact .outside h
  | label h => exact .label ⟨h.1, (hagree _ h.1).trans h.2⟩
  | division h => exact .division h

/-- Two machines that differ in labels which no taken jump looks up reach the same states. -/
theorem reaches_withLabels_iff {labels : LabelTable}
    (hagree : ∀ k s target, m.Reaches k s → s.JumpsTo target →
      labels.get? target = s.labels.get? target) {k : Nat} :
    (m.withLabels labels).Reaches k n ↔ ∃ s, m.Reaches k s ∧ n = s.withLabels labels := by
  induction k generalizing n with
  | zero => simp [reaches_zero_iff]
  | succ k ih =>
    rw [reaches_succ_iff]
    constructor
    · rintro ⟨_, hs', hstep⟩
      obtain ⟨s, hs, rfl⟩ := ih.1 hs'
      -- the step is taken with the old labels too, and these are then put back
      have hback := hstep.withLabels s.labels fun target htarget ↦
        (hagree k s target hs htarget).symm
      refine ⟨n.withLabels s.labels, .step hs hback, ?_⟩
      have hlabels : n.labels = labels := hstep.leaves.labels
      rw [← hlabels]
      rfl
    · rintro ⟨s', hs', rfl⟩
      obtain ⟨s, hs, hstep⟩ := reaches_succ_iff.1 hs'
      exact ⟨_, ih.2 ⟨s, hs, rfl⟩, hstep.withLabels labels fun target ↦ hagree k s target hs⟩

theorem IsPlain.withLabels (hplain : m.IsPlain) (labels : LabelTable) :
    (m.withLabels labels).IsPlain :=
  ⟨hplain.opcode, hplain.trace, hplain.sink⟩

theorem IsPlain.start (hplain : m.IsPlain) : m.start.IsPlain :=
  ⟨hplain.opcode, hplain.trace, hplain.sink⟩

/-- **A label that no taken jump looks up has no effect**, whether it is bound or not. -/
theorem IsPlain.ends_withLabels_iff (hplain : m.IsPlain)
    (hshort : ∀ k s, m.start.Reaches k s → s.registers.IsShort) {labels : LabelTable}
    (hagree : ∀ k s target, m.start.Reaches k s → s.JumpsTo target →
      labels.get? target = s.labels.get? target) {f? : Option Failure} :
    (m.withLabels labels).Ends n f? ↔ ∃ n', m.Ends n' f? ∧ n = n'.withLabels labels := by
  have hreaches : ∀ {k s}, (m.withLabels labels).start.Reaches k s ↔
      ∃ s', m.start.Reaches k s' ∧ s = s'.withLabels labels := reaches_withLabels_iff hagree
  have hshort' : ∀ k s, (m.withLabels labels).start.Reaches k s → s.registers.IsShort := by
    intro k s hs
    obtain ⟨s', hs', rfl⟩ := hreaches.1 hs
    exact hshort k s' hs'
  constructor
  · intro hends
    obtain ⟨k, _, hs', hstops, rfl⟩ :=
      ((hplain.withLabels labels).start.exists_run_eq_ended_iff hshort').1 hends
    obtain ⟨s, hs, rfl⟩ := hreaches.1 hs'
    have hback := hstops.withLabels s.labels fun target htarget ↦
      (hagree k s target hs htarget).symm
    exact ⟨_, (hplain.start.exists_run_eq_ended_iff hshort).2 ⟨k, s, hs, hback, rfl⟩, rfl⟩
  · rintro ⟨n', hends, rfl⟩
    obtain ⟨k, s, hs, hstops, rfl⟩ := (hplain.start.exists_run_eq_ended_iff hshort).1 hends
    have hstops' := hstops.withLabels labels fun target ↦ hagree k s target hs
    exact ((hplain.withLabels labels).start.exists_run_eq_ended_iff hshort').2
      ⟨k, _, hreaches.2 ⟨s, hs, rfl⟩, hstops', rfl⟩

theorem Reaches.labels {k : Nat} (h : m.Reaches k n) : n.labels = m.labels := by
  induction h with
  | start => rfl
  | step _ hstep ih => exact hstep.leaves.labels.trans ih

/-! ### Endings -/

/-- A run has one ending. -/
theorem Ends.unique {n' : Machine} {f? f?' : Option Failure} (h : m.Ends n f?)
    (h' : m.Ends n' f?') : n = n' ∧ f? = f?' := by
  obtain ⟨rounds, hrun⟩ := h
  obtain ⟨rounds', hrun'⟩ := h'
  have hlate := run_eq_ended_of_le (Nat.le_max_left rounds rounds') hrun
  have hlate' := run_eq_ended_of_le (Nat.le_max_right rounds rounds') hrun'
  exact Progress.ended.inj (hlate.symm.trans hlate')

theorem Ends.of_round {k : Nat} {s : Machine} {f? : Option Failure}
    (hrun : m.execute k = .running s) (hround : s.round = .ended n f?) : m.Ends n f? :=
  ⟨k + 1, (run_succ_of_running hrun).trans hround⟩

/-- A machine in the middle of a run has the status of one. -/
theorem status_of_execute {k : Nat} {s : Machine} (h : m.execute k = .running s) :
    s.status = .running := by
  induction k generalizing s with
  | zero => exact Progress.running.inj h ▸ rfl
  | succ k ih =>
    obtain ⟨t, hrun, hround⟩ := run_succ_eq_running_iff.1 h
    rw [round] at hround
    split at hround
    next =>
      have hstatus := t.keeps_step.status
      rcases hstep : t.step with ⟨u, - | f⟩
      · rw [hstep] at hround hstatus
        obtain rfl := Progress.running.inj hround
        exact hstatus.trans (ih hrun)
      · rw [hstep] at hround
        cases hround
    next => cases hround

/-- The status of a machine at the end of a run. -/
theorem status_of_ends {f? : Option Failure} (h : m.Ends n f?) :
    f? = none ∧ n.status = .halted .normal ∨
      (∃ f, f? = some (.fault f)) ∧ n.status = .halted .fault ∨ n.status = .running := by
  obtain ⟨k, s, hrun, hround⟩ := exists_run_eq_ended_iff.1 h
  rw [round] at hround
  split at hround
  next =>
    have hstatus := s.keeps_step.status.trans (status_of_execute hrun)
    rcases hstep : s.step with ⟨u, - | f⟩
    · rw [hstep] at hround
      cases hround
    · rw [hstep] at hround hstatus
      obtain ⟨rfl, rfl⟩ := Progress.ended.inj hround
      cases f with
      | fault f => exact .inr (.inl ⟨⟨f, rfl⟩, rfl⟩)
      | _ => exact .inr (.inr hstatus)
  next =>
    obtain ⟨rfl, rfl⟩ := Progress.ended.inj hround
    exact .inl ⟨rfl, rfl⟩

/-- A machine that has halted has ended its run. -/
theorem exists_execute_of_halted {k : Nat} {reason : HaltReason}
    (h : (m.execute k).machine.status = .halted reason) :
    ∃ f?, m.execute k = .ended (m.execute k).machine f? := by
  cases hprogress : m.execute k with
  | running s =>
    rw [hprogress] at h
    cases h.symm.trans (status_of_execute hprogress)
  | ended n f? => exact ⟨f?, rfl⟩

/-- A normal halt is the end of a run without a failure. -/
theorem execute_of_halted_normal {k : Nat} (h : (m.execute k).machine.status = .halted .normal) :
    m.execute k = .ended (m.execute k).machine none := by
  obtain ⟨f?, hended⟩ := exists_execute_of_halted h
  rcases status_of_ends ⟨k, hended⟩ with ⟨rfl, -⟩ | ⟨-, hstatus⟩ | hstatus
  · exact hended
  · cases h.symm.trans hstatus
  · cases h.symm.trans hstatus

/-- A halt on a fault is the end of a run with this fault. -/
theorem exists_execute_of_halted_fault {k : Nat}
    (h : (m.execute k).machine.status = .halted .fault) :
    ∃ f, m.execute k = .ended (m.execute k).machine (some (.fault f)) := by
  obtain ⟨f?, hended⟩ := exists_execute_of_halted h
  rcases status_of_ends ⟨k, hended⟩ with ⟨-, hstatus⟩ | ⟨⟨f, rfl⟩, -⟩ | hstatus
  · cases h.symm.trans hstatus
  · exact ⟨f, hended⟩
  · cases h.symm.trans hstatus

end Machine

open Machine

/-- **The endings of a run.** A plain machine is executed, and no register ever holds a number that
is too long to be written. The states that the rules reach from its start are determined, and none
comes after one where the rules stop. The run returns exactly if it reaches a state outside the
program; it ends with the fault for a label exactly if it reaches a jump that is taken to this
label, which is not bound; and with the fault for arithmetic exactly if it reaches a division by
zero, the fault showing what the two registers hold there. No other failure ends it. At the end
the machine is in the state so reached, but for its status. And a label to which no jump is ever
taken has no effect: where it is not bound, it may as well be bound to any place. -/
theorem execute_endings {m : Machine} (hplain : m.IsPlain)
    (hshort : ∀ k s, m.start.Reaches k s → s.registers.IsShort) :
    (∀ k s, m.start.Reaches k s →
      (∀ s', m.start.Reaches k s' → s' = s) ∧
      ∀ f?, s.Stops f? → ∀ j s', m.start.Reaches j s' → j ≤ k) ∧
    (∀ n, m.Ends n none ↔
      ∃ k s, m.start.Reaches k s ∧ ¬(0 ≤ s.pc ∧ s.pc < s.program.size) ∧ n = s.halt .normal) ∧
    (∀ n target, m.Ends n (some (.fault (.labelNotFound target))) ↔
      ∃ k s, m.start.Reaches k s ∧ s.MissesLabel target ∧ n = s.halt .fault) ∧
    (∀ n op operands, m.Ends n (some (.fault (.arithmetic op operands))) ↔
      ∃ k s result source, m.start.Reaches k s ∧ s.DividesByZero result source ∧ op = .div ∧
        operands = s.registers.operands result source ∧ n = s.halt .fault) ∧
    (∀ n f, m.Ends n (some f) →
      (∃ target, f = .fault (.labelNotFound target)) ∨
        ∃ operands, f = .fault (.arithmetic .div operands)) ∧
    ∀ target place, (∀ k s, m.start.Reaches k s → ¬s.JumpsTo target) →
      ∀ n f?, (m.withLabels (m.labels.insert target place)).Ends n f? ↔
        ∃ n', m.Ends n' f? ∧ n = n'.withLabels (m.labels.insert target place) := by
  have hrunning : ∀ {k s}, m.execute k = .running s ↔ m.start.Reaches k s :=
    hplain.start.run_eq_running_iff hshort
  have hended : ∀ {n f?}, m.Ends n f? ↔
      ∃ k s, m.start.Reaches k s ∧ s.Stops f? ∧ n = s.halt (haltReasonOf f?) :=
    hplain.start.exists_run_eq_ended_iff hshort
  refine ⟨fun k s hs ↦ ⟨fun s' hs' ↦ ?_, fun f? hstops j s' hs' ↦ ?_⟩, fun n ↦ ?_,
    fun n target ↦ ?_, fun n op operands ↦ ?_, fun n f hends ↦ ?_,
    fun target place hnever n f? ↦ ?_⟩
  · exact Progress.running.inj ((hrunning.2 hs').symm.trans (hrunning.2 hs))
  · by_contra hlater
    -- the run has ended in the round after the stop, and would still go on at the later state
    have hround := (run_succ_of_running (hrunning.2 hs)).trans (hstops.round (hshort k s hs))
    have hend := run_eq_ended_of_le (by omega : k + 1 ≤ j) hround
    exact nomatch hend.symm.trans (hrunning.2 hs')
  · rw [hended]
    refine exists_congr fun k ↦ exists_congr fun s ↦ and_congr_right fun _ ↦ and_congr_left' ?_
    rw [← isInside_iff, Bool.not_eq_true]
    exact ⟨fun | .outside h => h, .outside⟩
  · rw [hended]
    refine exists_congr fun k ↦ exists_congr fun s ↦ and_congr_right fun _ ↦ and_congr_left' ?_
    exact ⟨fun | .label h => h, .label⟩
  · rw [hended]
    constructor
    · rintro ⟨k, s, hs, ⟨⟩ | ⟨⟩ | ⟨hdivides⟩, hn⟩
      exact ⟨k, s, _, _, hs, hdivides, rfl, rfl, hn⟩
    · rintro ⟨k, s, result, source, hs, hdivides, rfl, rfl, hn⟩
      exact ⟨k, s, hs, .division hdivides, hn⟩
  · obtain ⟨k, s, -, hstops, -⟩ := hended.1 hends
    cases hstops with
    | label h => exact .inl ⟨_, rfl⟩
    | division h => exact .inr ⟨_, rfl⟩
  · refine hplain.ends_withLabels_iff hshort fun k s other hs hjumps ↦ ?_
    have hne : other ≠ target := by
      rintro rfl
      exact hnever k s hs hjumps
    rw [LabelTable.get?_insert, if_neg hne, hs.labels]
    rfl

/-- A jump that is not taken, to a label that is not bound, and a division of zero by zero. -/
theorem execute_endings_of_untaken_jump :
    let m : Machine :=
      { program := #[⟨none, .jnz .eax "nowhere"⟩, ⟨none, .arithmetic .div .eax .ebx⟩] }
    m.Ends ((m.start.goto 1).halt .fault)
      (some (.fault (.arithmetic .div [(.eax, 0), (.ebx, 0)]))) := by
  intro m
  have hplain : m.IsPlain := ⟨by decide, rfl, fun _ ↦ rfl⟩
  have hmem : ∀ {s : Machine} {operation}, s.program = m.program → s.StandsAt operation →
      operation = .jnz .eax "nowhere" ∨ operation = .arithmetic .div .eax .ebx := by
    rintro s _ hprogram ⟨k, i, -, hk, rfl⟩
    have hi := Array.mem_of_getElem? (hprogram ▸ hk)
    simp only [m, List.mem_toArray, List.mem_cons, List.not_mem_nil, or_false] at hi
    rcases hi with rfl | rfl
    · exact .inl rfl
    · exact .inr rfl
  -- neither instruction can change a register
  have hzero : ∀ k s, m.start.Reaches k s → s.program = m.program ∧ s.registers = .zero := by
    intro k s hs
    induction hs with
    | start => exact ⟨rfl, rfl⟩
    | step _ hstep ih =>
      obtain ⟨hprogram, hregisters⟩ := ih
      refine ⟨hstep.leaves.program.trans hprogram, ?_⟩
      cases hstep with
      | add h | sub h | mul h | mov h | out h => exact absurd (hmem hprogram h) (by simp)
      | @div result source h hne =>
        obtain ⟨rfl, rfl⟩ : result = .eax ∧ source = .ebx := by simpa using hmem hprogram h
        simp [hregisters] at hne
      | pass => exact hregisters
      | jump => exact hregisters
  have hshort : ∀ k s, m.start.Reaches k s → s.registers.IsShort := by
    intro k s hs r
    rw [(hzero k s hs).2, RegisterFile.get_zero]
    exact digitBound_pos
  obtain ⟨-, -, -, hdivision, -⟩ := execute_endings hplain hshort
  refine (hdivision _ .div _).2 ⟨1, m.start.goto 1, .eax, .ebx, ?_, ⟨?_, ?_⟩, rfl, ?_, rfl⟩
  · exact .step .start (.pass ⟨0, _, rfl, rfl, rfl⟩ (RegisterFile.get_zero _))
  · exact ⟨1, _, rfl, rfl, rfl⟩
  · exact RegisterFile.get_zero _
  · decide

/-! ### Division by zero -/

/-- **Division by zero.** Applied to a source that holds zero, a division changes nothing and fails.
The failure is the fault that shows the operands exactly when the dividend can be written; else it
is that the dividend is too long. So a run that comes to such a division ends there, in the same
state: halted with the fault if the dividend can be written, and still running if not. -/
theorem division_by_zero (m : Machine) (result source : Register) :
    (m.registers.get source = 0 →
      (Operation.apply m (.arithmetic .div result source) =
          (m, .error (.fault (.arithmetic .div (m.registers.operands result source)))) ↔
        (m.registers.get result).natAbs < digitBound) ∧
      (digitBound ≤ (m.registers.get result).natAbs →
        Operation.apply m (.arithmetic .div result source) = (m, .error (.digits .writing)))) ∧
    ∀ k s, m.execute k = .running s → s.DividesByZero result source →
      (∀ n, m.Ends n (some (.fault (.arithmetic .div (s.registers.operands result source)))) ↔
        (s.registers.get result).natAbs < digitBound ∧ n = s.halt .fault) ∧
      (digitBound ≤ (s.registers.get result).natAbs →
        m.Ends s (some (.digits .writing)) ∧ s.status = .running) := by
  refine ⟨fun hzero ↦ ?_, fun k s hrun hdivides ↦ ⟨fun n ↦ ⟨fun hends ↦ ?_, ?_⟩, fun hlong ↦ ?_⟩⟩
  · rw [Operation.apply_div_of_zero result hzero]
    refine ⟨⟨fun h ↦ ?_, fun hshort ↦ by rw [if_pos hshort]⟩, fun hlong ↦ ?_⟩
    · by_contra hlong
      rw [if_neg hlong] at h
      exact nomatch h
    · rw [if_neg (Nat.not_lt.2 hlong)]
  · by_cases hshort : (s.registers.get result).natAbs < digitBound
    · exact ⟨hshort, (hends.unique (.of_round hrun (hdivides.round hshort))).1⟩
    · have hbroken := Ends.of_round hrun (hdivides.round_of_long (Nat.not_lt.1 hshort))
      exact nomatch (hends.unique hbroken).2
  · rintro ⟨hshort, rfl⟩
    exact .of_round hrun (hdivides.round hshort)
  · exact ⟨.of_round hrun (hdivides.round_of_long hlong), status_of_execute hrun⟩

/-- The least dividend that is too long: the division is no fault, and does not halt the machine. -/
theorem division_by_zero_of_long_dividend :
    let m : Machine :=
      { program := #[⟨none, .mov .eax digitBound⟩, ⟨none, .arithmetic .div .eax .ebx⟩] }
    let s := m.start.assign .eax digitBound
    s.DividesByZero .eax .ebx ∧
      Operation.apply s (.arithmetic .div .eax .ebx) = (s, .error (.digits .writing)) ∧
      m.Ends s (some (.digits .writing)) ∧ s.status = .running ∧
      ∀ n f, ¬m.Ends n (some (.fault f)) := by
  intro m s
  have hdivides : s.DividesByZero .eax .ebx := by
    refine ⟨⟨1, _, rfl, rfl, rfl⟩, ?_⟩
    simp [s, assign, start, RegisterFile.get_set]
  have hlong : digitBound ≤ (s.registers.get .eax).natAbs := by
    simp [s, assign, start]
  have hmov : m.start.StandsAt (.mov .eax digitBound) := ⟨0, _, rfl, rfl, rfl⟩
  have hrun : m.execute 1 = .running s :=
    (run_succ_of_running (m.start.run_zero)).trans (round_of_apply_ok hmov rfl rfl)
  have hends : m.Ends s (some (.digits .writing)) := .of_round hrun (hdivides.round_of_long hlong)
  refine ⟨hdivides, ?_, hends, rfl, fun n f hfault ↦ ?_⟩
  · rw [Operation.apply_div_of_zero _ hdivides.2, if_neg (Nat.not_lt.2 hlong)]
  · exact nomatch (hends.unique hfault).2

end RegisterMachine
