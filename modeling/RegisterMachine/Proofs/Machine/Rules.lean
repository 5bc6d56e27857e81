import RegisterMachine.Proofs.Machine.Arithmetic
import RegisterMachine.Proofs.Machine.ProgramCounter

/-!
# The rules of the machine

What a machine does in one step, said **by one rule for each kind of instruction** and without
the code that executes it: `m.Advances n` says that a rule leads from `m` to `n`. Every rule asks
for the operation at which the program counter stands (`Machine.StandsAt`); the rules for division
and for jumps ask for more, and where they do not apply the machine stops (`Machine.Stops`).

The rules know no limit on numbers: `out` emits the decimal text of whatever the register holds.
The machine has this limit, a trace and a sink, so the two agree on **plain** machines, which have
none of the last two (`Machine.IsPlain`), as long as the registers hold **short** numbers, those
that can be written (`RegisterFile.IsShort`). Then a round goes on exactly by a rule
(`Machine.IsPlain.round_eq_running_iff`) and ends exactly where no rule applies
(`Machine.IsPlain.round_eq_ended_iff`), and a run goes through the states that the rules reach
(`Machine.IsPlain.run_eq_running_iff`).
-/

namespace RegisterMachine

open Text

/-- Every register holds a number that can be written. -/
def RegisterFile.IsShort (file : RegisterFile) : Prop := ∀ r, (file.get r).natAbs < digitBound

/-- The registers of an operation on two, each once, with what they hold. -/
def RegisterFile.operands (file : RegisterFile) (result source : Register) :
    List (Register × Int) :=
  if result = source then [(result, file.get result)]
  else [(result, file.get result), (source, file.get source)]

namespace Machine

/-! ### The rules -/

/-- The program counter stands at an instruction with this operation. -/
def StandsAt (m : Machine) (operation : Operation) : Prop :=
  ∃ (k : Nat) (i : Instruction), m.pc = k ∧ m.program[k]? = some i ∧ i.operation = operation

/-- A value goes into a register, and the next instruction is next. -/
def assign (m : Machine) (r : Register) (value : Int) : Machine :=
  { m with registers := m.registers.set r value, pc := m.pc + 1 }

/-- A text goes out, and the next instruction is next. -/
def output (m : Machine) (text : String) : Machine :=
  { m with offered := m.offered.push text, emitted := m.emitted.push text, pc := m.pc + 1 }

/-- Another place is next. -/
def goto (m : Machine) (place : Int) : Machine := { m with pc := place }

/-- **One step by the rules.** -/
inductive Advances (m : Machine) : Machine → Prop
  | add {result source : Register} (h : m.StandsAt (.arithmetic .add result source)) :
      Advances m (m.assign result (m.registers.get result + m.registers.get source))
  | sub {result source : Register} (h : m.StandsAt (.arithmetic .sub result source)) :
      Advances m (m.assign result (m.registers.get result - m.registers.get source))
  | mul {result source : Register} (h : m.StandsAt (.arithmetic .mul result source)) :
      Advances m (m.assign result (m.registers.get result * m.registers.get source))
  | div {result source : Register} (h : m.StandsAt (.arithmetic .div result source))
      (hne : m.registers.get source ≠ 0) :
      Advances m (m.assign result ((m.registers.get result).tdiv (m.registers.get source)))
  | mov {result : Register} {value : Int} (h : m.StandsAt (.mov result value)) :
      Advances m (m.assign result value)
  | out {source : Register} (h : m.StandsAt (.out source)) :
      Advances m (m.output (decimal (m.registers.get source)))
  | pass {source : Register} {target : String} (h : m.StandsAt (.jnz source target))
      (hzero : m.registers.get source = 0) : Advances m (m.goto (m.pc + 1))
  | jump {source : Register} {target : String} {place : Int} (h : m.StandsAt (.jnz source target))
      (hne : m.registers.get source ≠ 0) (hbound : m.labels.get? target = some place) :
      Advances m (m.goto place)

/-- A jump to this label is taken. -/
def JumpsTo (m : Machine) (target : String) : Prop :=
  ∃ source, m.StandsAt (.jnz source target) ∧ m.registers.get source ≠ 0

/-- A jump is taken to this label, which is not bound. -/
def MissesLabel (m : Machine) (target : String) : Prop :=
  m.JumpsTo target ∧ m.labels.get? target = none

/-- A division by a register that holds zero. -/
def DividesByZero (m : Machine) (result source : Register) : Prop :=
  m.StandsAt (.arithmetic .div result source) ∧ m.registers.get source = 0

/-- **Where no rule applies**, and the failure that ends a run there, if it is one. -/
inductive Stops (m : Machine) : Option Failure → Prop
  | outside (h : m.isInside = false) : Stops m none
  | label {target : String} (h : m.MissesLabel target) :
      Stops m (some (.fault (.labelNotFound target)))
  | division {result source : Register} (h : m.DividesByZero result source) :
      Stops m (some (.fault (.arithmetic .div (m.registers.operands result source))))

/-- The machine has taken this many steps by the rules. -/
inductive Reaches (m : Machine) : Nat → Machine → Prop
  | start : Reaches m 0 m
  | step {k : Nat} {s s' : Machine} (h : Reaches m k s) (hstep : s.Advances s') :
      Reaches m (k + 1) s'

/-! ### The instruction at the program counter -/

variable {m n : Machine}

theorem isInside_of_standsAt {operation : Operation} (h : m.StandsAt operation) :
    m.isInside = true := by
  obtain ⟨k, i, hpc, hk, -⟩ := h
  obtain ⟨hlt, -⟩ := Array.getElem?_eq_some_iff.1 hk
  exact isInside_iff.2 ⟨by omega, by omega⟩

theorem exists_fetch?_of_standsAt {operation : Operation} (h : m.StandsAt operation) :
    ∃ i, m.fetch? = some i ∧ i.operation = operation := by
  obtain ⟨k, i, hpc, hk, hi⟩ := h
  refine ⟨i, ?_, hi⟩
  have hplace : ¬ (k : Int) < 0 := by omega
  simp [fetch?, hpc, hplace, hk]

/-- The program counter stands at one operation. -/
theorem StandsAt.unique {operation operation' : Operation} (h : m.StandsAt operation)
    (h' : m.StandsAt operation') : operation = operation' := by
  obtain ⟨k, i, hpc, hk, rfl⟩ := h
  obtain ⟨k', i', hpc', hk', rfl⟩ := h'
  obtain rfl : k = k' := by omega
  obtain rfl := Option.some.inj (hk.symm.trans hk')
  rfl

/-- Inside the program, the program counter stands at an instruction. -/
theorem exists_standsAt (h : m.isInside = true) :
    ∃ i ∈ m.program, m.StandsAt i.operation := by
  obtain ⟨hlow, hhigh⟩ := isInside_iff.1 h
  have hlt : m.pc.toNat < m.program.size := by omega
  refine ⟨m.program[m.pc.toNat], Array.getElem_mem hlt, m.pc.toNat, _, by omega, ?_, rfl⟩
  exact Array.getElem?_eq_getElem hlt

/-- A round in which the operation fails ends the run. -/
theorem round_of_apply_error {operation : Operation} {f : Failure} (h : m.StandsAt operation)
    (happly : operation.apply m = (n, .error f)) :
    m.round = .ended (n.afterFailure f) (some f) := by
  obtain ⟨i, hfetch, rfl⟩ := exists_fetch?_of_standsAt h
  have hstep : m.step = (n, some f) := by simp [step, hfetch, happly]
  rw [round, if_pos (isInside_of_standsAt h), hstep]

/-- A round in which the operation does its work goes on where the program counter moves, unless
the trace fails. -/
theorem round_of_apply {operation : Operation} {transfer : Transfer}
    (h : m.StandsAt operation) (happly : operation.apply m = (n, .ok transfer)) :
    m.round = match (n.follow transfer).traced with
      | (s, none) => .running s
      | (s, some f) => .ended (s.afterFailure f) (some f) := by
  obtain ⟨i, hfetch, rfl⟩ := exists_fetch?_of_standsAt h
  have hstep : m.step = (n.follow transfer).traced := by simp [step, hfetch, happly]
  exact (if_pos (isInside_of_standsAt h)).trans (hstep ▸ rfl)

/-- Without a trace, such a round goes on. -/
theorem round_of_apply_ok {operation : Operation} {transfer : Transfer}
    (h : m.StandsAt operation) (happly : operation.apply m = (n, .ok transfer))
    (htrace : n.trace = false) : m.round = .running (n.follow transfer) := by
  have htraced : (n.follow transfer).traced = (n.follow transfer, none) := by
    cases transfer <;> simp [follow, traced, htrace]
  rw [round_of_apply h happly, htraced]

/-! ### Where a run stops -/

/-- Outside the program, a round is the end. -/
theorem round_of_outside (h : m.isInside = false) : m.round = .ended (m.halt .normal) none := by
  rw [round, if_neg (by simp [h])]

theorem MissesLabel.round {target : String} (h : m.MissesLabel target) :
    m.round = .ended (m.halt .fault) (some (.fault (.labelNotFound target))) := by
  obtain ⟨⟨source, hat, hne⟩, hnone⟩ := h
  have happly : Operation.apply m (.jnz source target) =
      (m, .error (.fault (.labelNotFound target))) := by
    simp [Operation.apply, hne, LabelTable.resolve, hnone, Except.map]
  exact round_of_apply_error hat happly

end Machine

/-! ### How an operation fails -/

/-- The ways in which an operation fails, with the machine it leaves behind. Only a sink that
refuses a text has changed anything: the text was offered. -/
inductive Operation.Fails (m : Machine) : Operation → Machine → Failure → Prop
  | arithmetic {op : Arithmetic} {result source : Register} {f : Failure}
      (h : op.compute result source (m.registers.get result) (m.registers.get source) = .error f) :
      Fails m (.arithmetic op result source) m f
  | long {source : Register} {e : DigitError}
      (h : writeDecimal (m.registers.get source) = .error e) : Fails m (.out source) m (.digits e)
  | refused {source : Register} {text : String} {f : Failure}
      (h : writeDecimal (m.registers.get source) = .ok text)
      (hsink : m.sink (m.offered.push text) = some f) :
      Fails m (.out source) { m with offered := m.offered.push text } f
  | label {source : Register} {target : String} (hne : m.registers.get source ≠ 0)
      (h : m.labels.get? target = none) :
      Fails m (.jnz source target) m (.fault (.labelNotFound target))
  | draft (kind : Draft) : Fails m (.draft kind) m (.undefinedOperation kind)

/-- **An operation fails in these ways and in no other.** -/
theorem Operation.apply_eq_error_iff {m n : Machine} {operation : Operation} {f : Failure} :
    operation.apply m = (n, .error f) ↔ operation.Fails m n f := by
  constructor
  · intro h
    cases operation with
    | arithmetic op result source =>
      rw [apply] at h
      split at h
      · cases h
      next hcompute =>
        cases h
        exact .arithmetic hcompute
    | mov result value => cases h
    | out source =>
      rw [apply] at h
      split at h
      next hwrite =>
        cases h
        exact .long hwrite
      next text hwrite =>
        cases hsink : m.sink (m.offered.push text) with
        | none => simp [Machine.emit, hsink] at h
        | some f' =>
          simp only [Machine.emit, hsink] at h
          cases h
          exact .refused hwrite hsink
    | jnz source target =>
      rw [apply] at h
      split at h
      · cases h
      next hne =>
        cases hplace : m.labels.get? target with
        | some place => simp [LabelTable.resolve, hplace, Except.map] at h
        | none =>
          simp only [LabelTable.resolve, hplace] at h
          cases h
          exact .label hne hplace
    | draft kind =>
      cases h
      exact .draft kind
  · intro h
    cases h with
    | arithmetic h => simp [apply, h]
    | long h => simp [apply, h]
    | refused h hsink => simp [apply, h, Machine.emit, hsink]
    | label hne h => simp [apply, hne, LabelTable.resolve, h, Except.map]
    | draft kind => rfl

/-! ### Division by zero -/

theorem digitBound_pos : 0 < digitBound := by
  unfold digitBound
  -- the power is too large to be computed
  generalize digitLimit = limit
  exact Nat.pow_pos (by decide)

/-- What a division by zero comes to: a fault that shows the operands, unless the dividend is too
long to be shown. -/
theorem Operation.apply_div_of_zero {m : Machine} (result : Register) {source : Register}
    (hzero : m.registers.get source = 0) :
    Operation.apply m (.arithmetic .div result source) =
      (m, .error (if (m.registers.get result).natAbs < digitBound then
        .fault (.arithmetic .div (m.registers.operands result source))
        else .digits .writing)) := by
  have hpos := digitBound_pos
  by_cases heq : result = source
  · subst heq
    simp [apply, Arithmetic.compute, arithmeticFailure, RegisterFile.operands, hzero, hpos]
  · simp [apply, Arithmetic.compute, arithmeticFailure, RegisterFile.operands, hzero, hpos, heq]

namespace Machine

variable {m n : Machine}

/-- A division by zero halts the machine where it stands, if the dividend can be shown. -/
theorem DividesByZero.round {result source : Register} (h : m.DividesByZero result source)
    (hshort : (m.registers.get result).natAbs < digitBound) :
    m.round = .ended (m.halt .fault)
      (some (.fault (.arithmetic .div (m.registers.operands result source)))) := by
  obtain ⟨hat, hzero⟩ := h
  have happly := Operation.apply_div_of_zero result hzero
  rw [if_pos hshort] at happly
  exact round_of_apply_error hat happly

/-- A division by zero with a dividend that cannot be shown breaks off, and the machine does not
halt. -/
theorem DividesByZero.round_of_long {result source : Register} (h : m.DividesByZero result source)
    (hlong : digitBound ≤ (m.registers.get result).natAbs) :
    m.round = .ended m (some (.digits .writing)) := by
  obtain ⟨hat, hzero⟩ := h
  have happly := Operation.apply_div_of_zero result hzero
  rw [if_neg (Nat.not_lt.2 hlong)] at happly
  exact round_of_apply_error hat happly

/-! ### Plain machines -/

/-- No trace is written, the sink takes everything, and every instruction has an opcode. -/
structure IsPlain (m : Machine) : Prop where
  opcode : ∀ i ∈ m.program, i.operation.opcode? ≠ none
  trace : m.trace = false
  sink : ∀ offered, m.sink offered = none

/-- What the rules leave alone. -/
structure Advances.Leaves (m n : Machine) : Prop where
  program : n.program = m.program
  labels : n.labels = m.labels
  trace : n.trace = m.trace
  sink : n.sink = m.sink

theorem Advances.leaves (h : m.Advances n) : Leaves m n := by
  cases h <;> exact ⟨rfl, rfl, rfl, rfl⟩

theorem emit_of_accepting (hsink : ∀ offered, m.sink offered = none) (text : String) :
    m.emit text =
      ({ m with offered := m.offered.push text, emitted := m.emitted.push text }, none) := by
  simp [Machine.emit, hsink]

/-- Without a trace, what a rule says a round does. Only `out` may fail where a rule applies: on a
number that is too long, or because the sink refuses it. -/
theorem Advances.round (h : m.Advances n) (htrace : m.trace = false)
    (hout : ∀ source, m.StandsAt (.out source) →
      (m.registers.get source).natAbs < digitBound ∧ ∀ offered, m.sink offered = none) :
    m.round = .running n := by
  cases h with
  | add h => exact round_of_apply_ok h rfl htrace
  | sub h => exact round_of_apply_ok h rfl htrace
  | mul h => exact round_of_apply_ok h rfl htrace
  | @div result source h hne =>
    generalize hquotient : (m.registers.get result).tdiv (m.registers.get source) = quotient
    have happly : Operation.apply m (.arithmetic .div result source) =
        ({ m with registers := m.registers.set result quotient }, .ok .advance) := by
      simp [Operation.apply, Arithmetic.compute, hne, quotient_eq_tdiv, hquotient]
    exact round_of_apply_ok h happly htrace
  | mov h => exact round_of_apply_ok h rfl htrace
  | @out source h =>
    obtain ⟨hshort, hsink⟩ := hout source h
    have happly : Operation.apply m (.out source) =
        ((m.emit (decimal (m.registers.get source))).1, .ok .advance) := by
      simp [Operation.apply, writeDecimal, hshort, emit_of_accepting hsink]
    rw [emit_of_accepting hsink] at happly
    exact round_of_apply_ok h happly htrace
  | @pass source target h hzero =>
    have happly : Operation.apply m (.jnz source target) = (m, .ok .advance) := by
      simp [Operation.apply, hzero]
    exact round_of_apply_ok h happly htrace
  | @jump source target place h hne hbound =>
    have happly : Operation.apply m (.jnz source target) = (m, .ok (.jump place)) := by
      simp [Operation.apply, hne, LabelTable.resolve, hbound, Except.map]
    exact round_of_apply_ok h happly htrace

/-- An instruction that emits nothing does so whatever the registers hold. -/
theorem Advances.round_of_ne_out {operation : Operation} (h : m.Advances n)
    (hat : m.StandsAt operation) (hne : ∀ source, operation ≠ .out source)
    (htrace : m.trace = false) : m.round = .running n :=
  h.round htrace fun source hout ↦ absurd (hat.unique hout) (hne source)

namespace IsPlain

theorem advances (hplain : m.IsPlain) (h : m.Advances n) : n.IsPlain := by
  obtain ⟨hprogram, -, htrace, hsink⟩ := h.leaves
  exact ⟨hprogram ▸ hplain.opcode, htrace.trans hplain.trace, hsink ▸ hplain.sink⟩

/-- **What a rule says, a round does**, if the registers hold short numbers. -/
theorem round_of_advances (hplain : m.IsPlain) (hshort : m.registers.IsShort)
    (h : m.Advances n) : m.round = .running n :=
  h.round hplain.trace fun source _ ↦ ⟨hshort source, hplain.sink⟩

/-- **A rule applies, or the machine stops.** -/
theorem advances_or_stops (hplain : m.IsPlain) : (∃ n, m.Advances n) ∨ ∃ f?, m.Stops f? := by
  cases hinside : m.isInside with
  | false => exact .inr ⟨none, .outside hinside⟩
  | true =>
    obtain ⟨i, hi, hat⟩ := exists_standsAt hinside
    have hopcode := hplain.opcode i hi
    cases hoperation : i.operation with
    | arithmetic op result source =>
      rw [hoperation] at hat
      cases op with
      | add => exact .inl ⟨_, .add hat⟩
      | sub => exact .inl ⟨_, .sub hat⟩
      | mul => exact .inl ⟨_, .mul hat⟩
      | div =>
        by_cases hzero : m.registers.get source = 0
        · exact .inr ⟨_, .division ⟨hat, hzero⟩⟩
        · exact .inl ⟨_, .div hat hzero⟩
    | mov result value => exact .inl ⟨_, .mov (hoperation ▸ hat)⟩
    | out source => exact .inl ⟨_, .out (hoperation ▸ hat)⟩
    | jnz source target =>
      rw [hoperation] at hat
      by_cases hzero : m.registers.get source = 0
      · exact .inl ⟨_, .pass hat hzero⟩
      · cases hbound : m.labels.get? target with
        | none => exact .inr ⟨_, .label ⟨⟨source, hat, hzero⟩, hbound⟩⟩
        | some place => exact .inl ⟨_, .jump hat hzero hbound⟩
    | draft kind => simp [hoperation, Operation.opcode?] at hopcode

end IsPlain

/-- The reason for which a run that ends so halts. -/
def haltReasonOf : Option Failure → HaltReason
  | none => .normal
  | some _ => .fault

/-- **Where the rules stop, a round ends the run** and leaves all but the status alone. -/
theorem Stops.round {f? : Option Failure} (hshort : m.registers.IsShort) (h : m.Stops f?) :
    m.round = .ended (m.halt (haltReasonOf f?)) f? := by
  cases h with
  | outside h => exact round_of_outside h
  | label h => exact h.round
  | division h => exact h.round (hshort _)

namespace IsPlain

theorem round_eq_running_iff (hplain : m.IsPlain) (hshort : m.registers.IsShort) :
    m.round = .running n ↔ m.Advances n := by
  refine ⟨fun h ↦ ?_, hplain.round_of_advances hshort⟩
  rcases hplain.advances_or_stops with ⟨n', hn'⟩ | ⟨f?, hstops⟩
  · have hround := (hplain.round_of_advances hshort hn').symm.trans h
    exact Progress.running.inj hround ▸ hn'
  · exact nomatch (hstops.round hshort).symm.trans h

theorem round_eq_ended_iff (hplain : m.IsPlain) (hshort : m.registers.IsShort)
    {f? : Option Failure} :
    m.round = .ended n f? ↔ m.Stops f? ∧ n = m.halt (haltReasonOf f?) := by
  refine ⟨fun h ↦ ?_, fun ⟨hstops, hn⟩ ↦ hn ▸ hstops.round hshort⟩
  rcases hplain.advances_or_stops with ⟨n', hn'⟩ | ⟨f?', hstops⟩
  · exact nomatch (hplain.round_of_advances hshort hn').symm.trans h
  · obtain ⟨rfl, rfl⟩ := Progress.ended.inj ((hstops.round hshort).symm.trans h)
    exact ⟨hstops, rfl⟩

end IsPlain

/-! ### Runs -/

/-- One more round of a run that goes on. -/
theorem run_succ_of_running {k : Nat} {s : Machine} (h : m.run k = .running s) :
    m.run (k + 1) = s.round := by
  rw [run_add, h]
  cases hround : s.round <;> simp [run_succ, hround]

theorem run_succ_eq_running_iff {k : Nat} :
    m.run (k + 1) = .running n ↔ ∃ s, m.run k = .running s ∧ s.round = .running n := by
  cases hrun : m.run k with
  | running s => simp [run_succ_of_running hrun]
  | ended s f? =>
    rw [run_eq_ended_of_le (Nat.le_succ k) hrun]
    simp

/-- A run ends in the round of a state that it goes through. -/
theorem exists_run_eq_ended_iff {f? : Option Failure} :
    (∃ rounds, m.run rounds = .ended n f?) ↔
      ∃ k s, m.run k = .running s ∧ s.round = .ended n f? := by
  constructor
  · rintro ⟨rounds, h⟩
    induction rounds with
    | zero => exact nomatch h
    | succ rounds ih =>
      cases hrun : m.run rounds with
      | running s => exact ⟨rounds, s, hrun, run_succ_of_running hrun ▸ h⟩
      | ended s f?' =>
        rw [run_eq_ended_of_le (Nat.le_succ rounds) hrun] at h
        exact ih (hrun.trans h)
  · rintro ⟨k, s, hrun, hround⟩
    exact ⟨k + 1, run_succ_of_running hrun ▸ hround⟩

theorem reaches_succ_iff {k : Nat} :
    m.Reaches (k + 1) n ↔ ∃ s, m.Reaches k s ∧ s.Advances n := by
  constructor
  · rintro (_ | ⟨h, hstep⟩)
    exact ⟨_, h, hstep⟩
  · rintro ⟨s, h, hstep⟩
    exact .step h hstep

theorem reaches_zero_iff : m.Reaches 0 n ↔ n = m := by
  constructor
  · rintro ⟨⟩
    rfl
  · rintro rfl
    exact .start

namespace IsPlain

theorem reaches (hplain : m.IsPlain) {k : Nat} (h : m.Reaches k n) : n.IsPlain := by
  induction h with
  | start => exact hplain
  | step _ hstep ih => exact ih.advances hstep

/-- **A run goes through the states that the rules reach.** -/
theorem run_eq_running_iff (hplain : m.IsPlain)
    (hshort : ∀ k s, m.Reaches k s → s.registers.IsShort) {k : Nat} :
    m.run k = .running n ↔ m.Reaches k n := by
  induction k generalizing n with
  | zero => simp [reaches_zero_iff, eq_comm]
  | succ k ih =>
    rw [run_succ_eq_running_iff, reaches_succ_iff]
    constructor
    · rintro ⟨s, hrun, hround⟩
      have hs := ih.1 hrun
      exact ⟨s, hs, ((hplain.reaches hs).round_eq_running_iff (hshort k s hs)).1 hround⟩
    · rintro ⟨s, hs, hstep⟩
      exact ⟨s, ih.2 hs, (hplain.reaches hs).round_of_advances (hshort k s hs) hstep⟩

/-- **A run ends where the rules stop.** -/
theorem exists_run_eq_ended_iff (hplain : m.IsPlain)
    (hshort : ∀ k s, m.Reaches k s → s.registers.IsShort) {f? : Option Failure} :
    (∃ rounds, m.run rounds = .ended n f?) ↔
      ∃ k s, m.Reaches k s ∧ s.Stops f? ∧ n = s.halt (haltReasonOf f?) := by
  rw [Machine.exists_run_eq_ended_iff]
  refine exists_congr fun k ↦ exists_congr fun s ↦ ?_
  rw [hplain.run_eq_running_iff hshort]
  refine and_congr_right fun hs ↦ ?_
  exact (hplain.reaches hs).round_eq_ended_iff (hshort k s hs)

end IsPlain

end Machine

end RegisterMachine
