import RegisterMachine.Machine.Run
import RegisterMachine.Proofs.Assembly.Places

/-!
# The program counter of a loaded program

A program that was loaded from source lines, even from a source that broke off, never sends the
program counter astray: it stays between the first instruction and the end of the program, so a
run that halts normally stands exactly at the end, and a fault stands at the instruction that
raised it (`pc_contained_of_load`).

The argument has one step and one run. A step either leaves the program counter where it was, or
moves it to the next place, or to a place that is bound (`Machine.pc_step`); program, labels and
status, which is the state with the reason for a halt, it never touches (`Machine.keeps_step`).
Where labels match the instructions, bound places are places of instructions, so a machine stays on
course (`Machine.IsOnCourse`) round after round.
-/

namespace RegisterMachine

open Text

/-! ### State and reason -/

/-- A state and a reason for a halt. Nothing ties the two: there may be a reason without a halt, and
a halt without a reason. -/
structure Status where
  state : State
  haltReason? : Option HaltReason
deriving DecidableEq, Repr

namespace Status

/-- Not started yet, and no reason. -/
abbrev idle : Status := ⟨.idle, none⟩

/-- In the middle of a run, and no reason. -/
abbrev running : Status := ⟨.running, none⟩

/-- Halted for a reason. -/
abbrev halted (reason : HaltReason) : Status := ⟨.halted, some reason⟩

end Status

/-- The state of a machine, with the reason for its halt. -/
def Machine.status (m : Machine) : Status := ⟨m.state, m.haltReason?⟩

/-! ### What a step leaves alone -/

/-- The second machine has the program, the labels and the status of the first. -/
structure Machine.Keeps (m n : Machine) : Prop where
  program : n.program = m.program
  labels : n.labels = m.labels
  status : n.status = m.status

namespace Machine

theorem Keeps.refl (m : Machine) : m.Keeps m := ⟨rfl, rfl, rfl⟩

theorem Keeps.trans {m n o : Machine} (h : m.Keeps n) (h' : n.Keeps o) : m.Keeps o :=
  ⟨h'.program.trans h.program, h'.labels.trans h.labels, h'.status.trans h.status⟩

theorem keeps_emit (m : Machine) (text : String) :
    m.Keeps (m.emit text).1 ∧ (m.emit text).1.pc = m.pc := by
  unfold emit
  dsimp only
  split <;> exact ⟨⟨rfl, rfl, rfl⟩, rfl⟩

theorem keeps_traced (m : Machine) : m.Keeps m.traced.1 ∧ m.traced.1.pc = m.pc := by
  unfold traced dump
  split
  · split <;> exact ⟨⟨rfl, rfl, rfl⟩, rfl⟩
  · exact ⟨.refl m, rfl⟩

theorem keeps_follow (m : Machine) (transfer : Transfer) : m.Keeps (m.follow transfer) := by
  cases transfer <;> exact ⟨rfl, rfl, rfl⟩

end Machine

/-- An operation works on the registers and the output only. -/
theorem Operation.keeps_apply (m : Machine) (operation : Operation) :
    m.Keeps (operation.apply m).1 ∧ (operation.apply m).1.pc = m.pc := by
  cases operation with
  | arithmetic op result source =>
    rw [Operation.apply]
    cases op.compute result source (m.registers.get result) (m.registers.get source) with
    | ok value => exact ⟨⟨rfl, rfl, rfl⟩, rfl⟩
    | error f => exact ⟨.refl m, rfl⟩
  | mov result value => exact ⟨⟨rfl, rfl, rfl⟩, rfl⟩
  | out source =>
    rw [Operation.apply]
    cases writeDecimal (m.registers.get source) with
    | error e => exact ⟨.refl m, rfl⟩
    | ok text =>
      have hemit := m.keeps_emit text
      rcases hresult : m.emit text with ⟨n, - | f⟩ <;> simpa [hresult] using hemit
  | jnz source target =>
    rw [Operation.apply]
    split <;> exact ⟨.refl m, rfl⟩
  | draft kind => exact ⟨.refl m, rfl⟩

/-- A jump goes to the place to which its target is bound. -/
theorem Operation.exists_jnz_of_jump {m : Machine} {operation : Operation} {place : Int}
    (h : (operation.apply m).2 = .ok (.jump place)) :
    ∃ source target, operation = .jnz source target ∧ m.labels.get? target = some place := by
  cases operation with
  | arithmetic op result source =>
    rw [Operation.apply] at h
    cases hcompute : op.compute result source (m.registers.get result) (m.registers.get source) <;>
      simp [hcompute] at h
  | mov result value => simp [Operation.apply] at h
  | out source =>
    rw [Operation.apply] at h
    cases hwrite : writeDecimal (m.registers.get source) with
    | error e => simp [hwrite] at h
    | ok text => rcases hresult : m.emit text with ⟨n, - | f⟩ <;> simp [hwrite, hresult] at h
  | jnz source target =>
    rw [Operation.apply] at h
    split at h
    · simp at h
    · refine ⟨source, target, rfl, ?_⟩
      cases hget : m.labels.get? target with
      | none => simp [LabelTable.resolve, hget, Except.map] at h
      | some bound => simpa [LabelTable.resolve, hget, Except.map] using h
  | draft kind => simp [Operation.apply] at h

namespace Machine

/-! ### Where a step goes -/

/-- What became of a machine in one step: nothing stood at the program counter, or an operation
failed, or it was applied and the program counter moved. -/
theorem step_cases (m : Machine) :
    m.step = (m, some m.fetchFailure) ∨
    (∃ (i : Instruction) (n : Machine) (f : Failure), i.operation.apply m = (n, .error f) ∧
      m.step = (n, some f)) ∨
    ∃ (i : Instruction) (n : Machine) (transfer : Transfer),
      i.operation.apply m = (n, .ok transfer) ∧ m.step = (n.follow transfer).traced := by
  rw [step]
  cases m.fetch? with
  | none => exact .inl rfl
  | some i =>
    refine .inr ?_
    rcases happly : i.operation.apply m with ⟨n, f | transfer⟩
    · exact .inl ⟨i, n, f, happly, by simp [happly]⟩
    · exact .inr ⟨i, n, transfer, happly, by simp [happly]⟩

theorem keeps_step (m : Machine) : m.Keeps m.step.1 := by
  rcases m.step_cases with hstep | ⟨i, n, f, happly, hstep⟩ | ⟨i, n, transfer, happly, hstep⟩
  · rw [hstep]
    exact .refl m
  · rw [hstep]
    simpa [happly] using (i.operation.keeps_apply m).1
  · rw [hstep]
    have hkeeps : m.Keeps n := by simpa [happly] using (i.operation.keeps_apply m).1
    exact (hkeeps.trans (n.keeps_follow transfer)).trans (n.follow transfer).keeps_traced.1

/-- **A step stays, goes on to the next place, or jumps to a bound one.** -/
theorem pc_step (m : Machine) :
    m.step.1.pc = m.pc ∨ m.step.1.pc = m.pc + 1 ∨
      ∃ target, m.labels.get? target = some m.step.1.pc := by
  rcases m.step_cases with hstep | ⟨i, n, f, happly, hstep⟩ | ⟨i, n, transfer, happly, hstep⟩
  · exact .inl (by rw [hstep])
  · refine .inl ?_
    rw [hstep]
    simpa [happly] using (i.operation.keeps_apply m).2
  · refine .inr ?_
    have hpc : n.pc = m.pc := by simpa [happly] using (i.operation.keeps_apply m).2
    rw [hstep, (n.follow transfer).keeps_traced.2]
    cases transfer with
    | advance => exact .inl (by simp [follow, hpc])
    | jump place =>
      obtain ⟨-, target, -, hplace⟩ := i.operation.exists_jnz_of_jump (by rw [happly])
      exact .inr ⟨target, hplace⟩

/-- A fault leaves the program counter at the instruction that raised it: tracing, which comes
after the move, raises none. -/
theorem pc_step_of_fault {m n : Machine} {f : Fault} (h : m.step = (n, some (.fault f))) :
    n.pc = m.pc := by
  rcases m.step_cases with hstep | ⟨i, n', f', happly, hstep⟩ | ⟨i, n', transfer, happly, hstep⟩
  · obtain ⟨rfl, -⟩ := Prod.mk.inj (hstep.symm.trans h)
    rfl
  · obtain ⟨rfl, -⟩ := Prod.mk.inj (hstep.symm.trans h)
    simpa [happly] using (i.operation.keeps_apply m).2
  · -- the trace is written after the move; it may fail, but with no fault
    have htraced := hstep.symm.trans h
    unfold traced dump at htraced
    split at htraced
    · split at htraced <;> simp at htraced
    · simp at htraced

/-! ### Rounds -/

/-- The program counter stands in the program or at its end. -/
def IsContained (m : Machine) : Prop := 0 ≤ m.pc ∧ m.pc ≤ m.program.size

/-- A running machine whose labels match its instructions and whose program counter is
contained. -/
structure IsOnCourse (m : Machine) : Prop where
  labels : LabelsMatch m.program m.labels
  status : m.status = .running
  contained : m.IsContained

/-- How a machine on course ends: contained, at the end of the program if it halts normally, and at
an instruction if it faults. -/
structure EndsOnCourse (m : Machine) (failure? : Option Failure) : Prop where
  contained : m.IsContained
  normal : m.status = .halted .normal → m.pc = m.program.size
  fault : ∀ f, failure? = some (.fault f) → 0 ≤ m.pc ∧ m.pc < m.program.size

end Machine

/-- Where a run that is on course stands. -/
def Progress.IsOnCourse : Progress → Prop
  | .running m => m.IsOnCourse
  | .ended m failure? => m.EndsOnCourse failure?

theorem Progress.IsOnCourse.contained {progress : Progress} (h : progress.IsOnCourse) :
    progress.machine.IsContained := by
  cases progress with
  | running m => exact Machine.IsOnCourse.contained h
  | ended m failure? => exact Machine.EndsOnCourse.contained h

namespace Machine

theorem isInside_iff {m : Machine} : m.isInside = true ↔ 0 ≤ m.pc ∧ m.pc < m.program.size := by
  simp [isInside]

/-- A step from an instruction does not leave the program by more than its end. -/
theorem IsOnCourse.contained_step {m : Machine} (h : m.IsOnCourse) (hinside : m.isInside = true) :
    m.step.1.IsContained := by
  obtain ⟨hlow, hhigh⟩ := isInside_iff.1 hinside
  rw [IsContained, m.keeps_step.program]
  rcases m.pc_step with hpc | hpc | ⟨target, hpc⟩
  · omega
  · omega
  · -- a bound place is the place of an instruction
    obtain ⟨k, i, hplace, hk, -⟩ := (h.labels target _).1 hpc
    obtain ⟨hlt, -⟩ := Array.getElem?_eq_some_iff.1 hk
    omega

@[simp] theorem pc_afterFailure (m : Machine) (f : Failure) : (m.afterFailure f).pc = m.pc := by
  unfold afterFailure
  split <;> rfl

@[simp] theorem program_afterFailure (m : Machine) (f : Failure) :
    (m.afterFailure f).program = m.program := by
  unfold afterFailure
  split <;> rfl

/-- A failure is no normal halt. -/
theorem status_afterFailure_ne {m : Machine} (h : m.status = .running) (f : Failure) :
    (m.afterFailure f).status ≠ .halted .normal := by
  unfold afterFailure
  split
  · exact fun hstatus ↦ nomatch hstatus
  · rw [h]
    exact fun hstatus ↦ nomatch hstatus

/-- **One round keeps a machine on course.** -/
theorem IsOnCourse.round {m : Machine} (h : m.IsOnCourse) : m.round.IsOnCourse := by
  obtain ⟨hprogram, hlabels, hstatus⟩ := m.keeps_step
  rw [Machine.round]
  split
  next hinside =>
    have hcontained := h.contained_step hinside
    have hmatch : LabelsMatch m.step.1.program m.step.1.labels := by
      rw [hprogram, hlabels]
      exact h.labels
    rcases hstep : m.step with ⟨n, - | f⟩
    · rw [hstep] at hcontained hmatch hstatus
      exact ⟨hmatch, hstatus.trans h.status, hcontained⟩
    · rw [hstep] at hcontained hprogram hstatus
      refine ⟨by simpa [IsContained] using hcontained, fun hnormal ↦ ?_, ?_⟩
      · exact absurd hnormal (status_afterFailure_ne (hstatus.trans h.status) f)
      · rintro f' ⟨⟩
        rw [pc_afterFailure, program_afterFailure, pc_step_of_fault hstep, hprogram]
        exact isInside_iff.1 hinside
  next hinside =>
    -- contained, but at no instruction: the end is all that is left
    have hend : m.pc = m.program.size := by
      obtain ⟨hlow, hhigh⟩ := h.contained
      rw [isInside_iff] at hinside
      omega
    exact ⟨h.contained, fun _ ↦ hend, fun _ hf ↦ nomatch hf⟩

/-- **Every run of a machine on course is on course.** -/
theorem IsOnCourse.run {m : Machine} (h : m.IsOnCourse) (rounds : Nat) :
    (m.run rounds).IsOnCourse :=
  run_induction (P := Progress.IsOnCourse) IsOnCourse.round h rounds

theorem program_round (m : Machine) : m.round.machine.program = m.program := by
  have hkeeps := m.keeps_step.program
  rw [Machine.round]
  split
  · rcases hstep : m.step with ⟨n, - | f⟩ <;> rw [hstep] at hkeeps
    · exact hkeeps
    · exact (n.program_afterFailure f).trans hkeeps
  · rfl

/-- A run never changes its program. -/
theorem program_run (m : Machine) (rounds : Nat) : (m.run rounds).machine.program = m.program :=
  run_induction (P := fun progress ↦ progress.machine.program = m.program)
    (fun {n} h ↦ n.program_round.trans h) rfl rounds

end Machine

/-! ### Loaded programs -/

/-- A load leaves program and labels as they were assembled, whether or not it gets to the end of
its source. -/
theorem labelsMatch_load (m : Machine) (source : LineSource) :
    LabelsMatch (m.load source).1.program (m.load source).1.labels := by
  rw [m.fst_load source]
  exact labelsMatch_assemble source

/-- **Loaded programs never lose the program counter.** Whatever was loaded, completely or not, the
table binds a label to a place exactly when the instruction at this place carries it, so no two
instructions carry the same label; and whatever else became of the machine in the meantime, every
run of it has its program counter in the program or at its end: at the end where it halts normally,
at an instruction where it faults. -/
theorem pc_contained_of_load {m n : Machine} {source : LineSource}
    (hprogram : n.program = (m.load source).1.program)
    (hlabels : n.labels = (m.load source).1.labels) :
    (∀ label place, n.labels.get? label = some place ↔
      0 ≤ place ∧ place < n.program.size ∧
        ∃ i, n.program[place.toNat]? = some i ∧ i.label? = some label) ∧
    (n.program.toList.filterMap (·.label?)).Nodup ∧
    ∀ rounds,
      (0 ≤ (n.execute rounds).machine.pc ∧ (n.execute rounds).machine.pc ≤ n.program.size) ∧
      ∀ s failure?, n.execute rounds = .ended s failure? →
        (s.status = .halted .normal → s.pc = n.program.size) ∧
        ∀ f, failure? = some (.fault f) → 0 ≤ s.pc ∧ s.pc < n.program.size := by
  have hmatch : LabelsMatch n.program n.labels := by
    rw [hprogram, hlabels]
    exact labelsMatch_load m source
  refine ⟨fun label place ↦ ?_, hmatch.nodup, fun rounds ↦ ?_⟩
  · rw [hmatch label place]
    constructor
    · rintro ⟨k, i, rfl, hk, hi⟩
      obtain ⟨hlt, -⟩ := Array.getElem?_eq_some_iff.1 hk
      exact ⟨by omega, by omega, i, by simpa using hk, hi⟩
    · rintro ⟨hlow, -, i, hk, hi⟩
      exact ⟨place.toNat, i, by omega, hk, hi⟩
  · have hstart : n.start.IsOnCourse := ⟨hmatch, rfl, Int.le_refl 0, Int.natCast_nonneg _⟩
    have hcourse := hstart.run rounds
    have hcontained := hcourse.contained
    rw [Machine.IsContained, n.start.program_run rounds] at hcontained
    refine ⟨hcontained, fun s failure? hended ↦ ?_⟩
    have hends : s.EndsOnCourse failure? := by
      rw [show n.start.run rounds = _ from hended] at hcourse
      exact hcourse
    have hsame : s.program = n.program := by
      rw [show s = (n.execute rounds).machine by rw [hended]; rfl]
      exact n.start.program_run rounds
    rw [← hsame]
    exact ⟨hends.normal, hends.fault⟩

/-- The endless loop of a source that broke off. -/
theorem pc_contained_of_interrupted_load :
    let n := (({} : Machine).load ⟨["l: mov EAX 1", "jnz EAX l"], some .interrupted⟩).1
    n.program.size = 2 ∧
      ∀ rounds, 0 ≤ (n.execute rounds).machine.pc ∧ (n.execute rounds).machine.pc ≤ 2 := by
  intro n
  have hsize : n.program.size = 2 := by decide +kernel
  obtain ⟨-, -, hruns⟩ := pc_contained_of_load (n := n) rfl rfl
  rw [hsize] at hruns
  exact ⟨hsize, fun rounds ↦ (hruns rounds).1⟩

end RegisterMachine
