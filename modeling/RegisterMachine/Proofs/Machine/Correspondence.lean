import Mathlib.Logic.Equiv.Basic
import RegisterMachine.Proofs.Machine.Tracing

/-!
# Machines that run in step

A machine runs a program in the same way under other names and at another place. Here this is said
once, for all programs: the program of `m` **stands in** that of `n` if it comes after some other
operations and its registers and labels are renamed (`Embedding`, `Embedding.Hosts`). Then the two
machines run **in step** (`Embedding.InStep`): after every number of rounds both go on, or both
have ended, with the same output, corresponding registers and program counters that differ by the
place of the program (`Embedding.InStep.run`).

What the machines were before does not enter. Only program, labels, trace flag and the future
answers of the sinks are compared (`Embedding.Hosts`), and a run begins with all the rest at its
start (`Embedding.inStep_start`).

Operations before the program are only harmless for a program counter that is not negative: a
negative one is outside of the one program and may be inside of the other. So labels must not be
bound to negative places if there are such operations; and there must be no trace, which shows the
program counter.
-/

namespace RegisterMachine

open Text Machine

/-! ### Two runs side by side -/

/-- Two runs stand alike: both go on, or both have ended, in machines that are related and, if they
have ended, with endings that are. -/
inductive Progress.Matches (R : Machine → Machine → Prop)
    (F : Option Failure → Option Failure → Prop) : Progress → Progress → Prop
  | running {m n : Machine} (h : R m n) : Matches R F (.running m) (.running n)
  | ended {m n : Machine} {f? g? : Option Failure} (h : R m n) (hf : F f? g?) :
      Matches R F (.ended m f?) (.ended n g?)

theorem Progress.Matches.mono {R R' : Machine → Machine → Prop}
    {F F' : Option Failure → Option Failure → Prop} {p q : Progress} (h : p.Matches R F q)
    (hR : ∀ m n, R m n → R' m n) (hF : ∀ f? g?, F f? g? → F' f? g?) : p.Matches R' F' q := by
  cases h with
  | running h => exact .running (hR _ _ h)
  | ended h hf => exact .ended (hR _ _ h) (hF _ _ hf)

theorem Progress.Matches.machine {R : Machine → Machine → Prop}
    {F : Option Failure → Option Failure → Prop} {p q : Progress} (h : p.Matches R F q) :
    R p.machine q.machine := by
  cases h with
  | running h => exact h
  | ended h _ => exact h

/-- Where runs match, the one ends if the other does. -/
theorem Machine.Ends.of_matches {R : Machine → Machine → Prop}
    {F : Option Failure → Option Failure → Prop} {m n m' : Machine} {f? : Option Failure}
    (h : m.Ends m' f?) (hmatches : ∀ k, (m.execute k).Matches R F (n.execute k)) :
    ∃ n' g?, n.Ends n' g? ∧ R m' n' ∧ F f? g? := by
  obtain ⟨k, hended⟩ := h
  have hk := hmatches k
  rw [hended] at hk
  generalize hq : n.execute k = q at hk
  cases hk with
  | ended h hf => exact ⟨_, _, ⟨k, hq⟩, h, hf⟩

/-- **What matches in every round, matches in every run.** -/
theorem Machine.matches_run {R : Machine → Machine → Prop}
    {F : Option Failure → Option Failure → Prop}
    (hround : ∀ {m n : Machine}, R m n → m.round.Matches R F n.round) {m n : Machine} (h : R m n)
    (rounds : Nat) : (m.run rounds).Matches R F (n.run rounds) := by
  induction rounds generalizing m n with
  | zero => exact .running h
  | succ rounds ih =>
    have hnext := hround h
    rw [run_succ, run_succ]
    generalize m.round = p, n.round = q at hnext
    cases hnext with
    | running hnext => exact ih hnext
    | ended hend hf => exact .ended hend hf

/-! ### Output -/

namespace Machine

/-- The sinks of both machines will answer alike, if they are offered the same texts. -/
def SinksAgree (m n : Machine) : Prop :=
  ∀ texts, n.sink (n.offered ++ texts) = m.sink (m.offered ++ texts)

/-- Since the machines were `m₀` and `n₀`, the same texts were offered to both sinks, and the same
were accepted. -/
structure SameOutput (m₀ n₀ m n : Machine) : Prop where
  offered : ∃ texts, m.offered = m₀.offered ++ texts ∧ n.offered = n₀.offered ++ texts
  emitted : ∃ texts, m.emitted = m₀.emitted ++ texts ∧ n.emitted = n₀.emitted ++ texts

theorem SameOutput.refl (m₀ n₀ : Machine) : m₀.SameOutput n₀ m₀ n₀ where
  offered := ⟨#[], by simp⟩
  emitted := ⟨#[], by simp⟩

theorem Advances.Leaves.trans {m n o : Machine} (h : Leaves m n) (h' : Leaves n o) : Leaves m o :=
  ⟨h'.program.trans h.program, h'.labels.trans h.labels, h'.trace.trans h.trace,
    h'.sink.trans h.sink⟩

theorem exists_push {base base' texts texts' : Array String}
    (h : ∃ more, texts = base ++ more ∧ texts' = base' ++ more) (text : String) :
    ∃ more, texts.push text = base ++ more ∧ texts'.push text = base' ++ more := by
  obtain ⟨more, rfl, rfl⟩ := h
  exact ⟨more.push text, by simp⟩

end Machine

/-! ### How a program stands in another -/

/-- Other names for registers and labels, and operations that come before a program. -/
structure Embedding where
  register : Equiv.Perm Register
  label : String → String
  lead : Array Operation

namespace Embedding

variable (e : Embedding)

/-- The operation under its other names. -/
def operation : Operation → Operation
  | .arithmetic op result source => .arithmetic op (e.register result) (e.register source)
  | .mov result value => .mov (e.register result) value
  | .out source => .out (e.register source)
  | .jnz source target => .jnz (e.register source) (e.label target)
  | .draft kind => .draft kind

/-- The same failure, or the same fault of the program under its other names. -/
inductive Renames : Failure → Failure → Prop
  | same (f : Failure) : Renames f f
  | label (target : String) :
      Renames (.fault (.labelNotFound target)) (.fault (.labelNotFound (e.label target)))
  | arithmetic (op : Arithmetic) (operands : List (Register × Int)) :
      Renames (.fault (.arithmetic op operands))
        (.fault (.arithmetic op (operands.map fun (r, value) ↦ (e.register r, value))))

/-- The failure under its other names: the label of a jump, or the registers of a division. -/
def failure (e : Embedding) : Failure → Failure
  | .fault (.labelNotFound target) => .fault (.labelNotFound (e.label target))
  | .fault (.arithmetic op operands) =>
    .fault (.arithmetic op (operands.map fun (r, value) ↦ (e.register r, value)))
  | f => f

/-- The same answers, but for the names in a fault and the place of a jump. -/
inductive Answers : Except Failure Transfer → Except Failure Transfer → Prop
  | advance : Answers (.ok .advance) (.ok .advance)
  | jump (place : Int) (h : 0 < e.lead.size → 0 ≤ place) :
      Answers (.ok (.jump place)) (.ok (.jump (place + e.lead.size)))
  | failure {f g : Failure} (h : e.Renames f g) : Answers (.error f) (.error g)

/-- The program of the first machine stands in that of the second. -/
structure Hosts (m n : Machine) : Prop where
  program : n.operations = e.lead ++ m.operations.map e.operation
  labels : ∀ source target, .jnz source target ∈ m.operations →
    n.labels.get? (e.label target) = (m.labels.get? target).map (· + (e.lead.size : Int))
  trace : n.trace = m.trace
  sink : m.SinksAgree n
  quiet : 0 < e.lead.size → m.trace = false
  nonneg : 0 < e.lead.size → ∀ label place, m.labels.get? label = some place → 0 ≤ place

/-- Two machines, which have come from `m₀` and `n₀`, stand alike. -/
structure InStep (m₀ n₀ m n : Machine) : Prop where
  left : Advances.Leaves m₀ m
  right : Advances.Leaves n₀ n
  registers : ∀ r, n.registers.get (e.register r) = m.registers.get r
  pc : n.pc = m.pc + e.lead.size
  nonneg : 0 < e.lead.size → 0 ≤ m.pc
  status : n.status = m.status
  output : m₀.SameOutput n₀ m n

variable {e} {m₀ n₀ m n : Machine}

theorem Renames.isFault_eq {f g : Failure} (h : e.Renames f g) : g.isFault = f.isFault := by
  cases h <;> rfl

theorem renames_failure (e : Embedding) (f : Failure) : e.Renames f (e.failure f) := by
  cases f with
  | fault f =>
    cases f with
    | labelNotFound target => exact .label target
    | arithmetic op operands => exact .arithmetic op operands
    | output message => exact .same _
  | _ => exact .same _

namespace InStep

/-! ### The same instruction is next -/

theorem operations_eq (hhosts : e.Hosts m₀ n₀) (h : e.InStep m₀ n₀ m n) :
    n.operations = e.lead ++ m.operations.map e.operation := by
  rw [operations, operations, h.left.program, h.right.program]
  exact hhosts.program

theorem isInside_eq (hhosts : e.Hosts m₀ n₀) (h : e.InStep m₀ n₀ m n) :
    n.isInside = m.isInside := by
  have hsize : n.program.size = e.lead.size + m.program.size := by
    simpa [operations] using congrArg Array.size (h.operations_eq hhosts)
  have hpc := h.pc
  have hnonneg := h.nonneg
  rw [Bool.eq_iff_iff, isInside_iff, isInside_iff]
  omega

theorem standsAt (hhosts : e.Hosts m₀ n₀) (h : e.InStep m₀ n₀ m n) {operation : Operation}
    (hat : m.StandsAt operation) : n.StandsAt (e.operation operation) := by
  obtain ⟨k, i, hpc, hk, rfl⟩ := hat
  have hplace : n.operations[e.lead.size + k]? = some (e.operation i.operation) := by
    rw [h.operations_eq hhosts, Array.getElem?_append_right (Nat.le_add_right _ _)]
    simp [operations, hk]
  rw [operations, Array.getElem?_map, Option.map_eq_some_iff] at hplace
  obtain ⟨j, hj, hoperation⟩ := hplace
  have hpc' := h.pc
  exact ⟨e.lead.size + k, j, by omega, hj, hoperation⟩

/-! ### One operation -/

theorem set (h : e.InStep m₀ n₀ m n) (r : Register) (value : Int) :
    e.InStep m₀ n₀ { m with registers := m.registers.set r value }
      { n with registers := n.registers.set (e.register r) value } where
  left := h.left.trans ⟨rfl, rfl, rfl, rfl⟩
  right := h.right.trans ⟨rfl, rfl, rfl, rfl⟩
  registers s := by
    simp only [RegisterFile.get_set, e.register.injective.eq_iff, h.registers]
  pc := h.pc
  nonneg := h.nonneg
  status := h.status
  output := ⟨h.output.offered, h.output.emitted⟩

/-- The sinks give the same answer to the same text. -/
theorem sink_eq (hhosts : e.Hosts m₀ n₀) (h : e.InStep m₀ n₀ m n) (text : String) :
    n.sink (n.offered.push text) = m.sink (m.offered.push text) := by
  obtain ⟨texts, hm, hn⟩ := h.output.offered
  rw [h.left.sink, h.right.sink, hm, hn, ← Array.append_push, ← Array.append_push]
  exact hhosts.sink _

theorem emit (hhosts : e.Hosts m₀ n₀) (h : e.InStep m₀ n₀ m n) (text : String) :
    e.InStep m₀ n₀ (m.emit text).1 (n.emit text).1 ∧ (n.emit text).2 = (m.emit text).2 := by
  have hoffered := exists_push h.output.offered text
  simp only [Machine.emit, h.sink_eq hhosts]
  cases m.sink (m.offered.push text) with
  | none =>
    exact ⟨⟨h.left.trans ⟨rfl, rfl, rfl, rfl⟩, h.right.trans ⟨rfl, rfl, rfl, rfl⟩, h.registers,
      h.pc, h.nonneg, h.status, hoffered, exists_push h.output.emitted text⟩, rfl⟩
  | some f =>
    exact ⟨⟨h.left.trans ⟨rfl, rfl, rfl, rfl⟩, h.right.trans ⟨rfl, rfl, rfl, rfl⟩, h.registers,
      h.pc, h.nonneg, h.status, hoffered, h.output.emitted⟩, rfl⟩

end InStep

theorem arithmeticFailure_map (op : Arithmetic) (operands : List (Register × Int)) :
    arithmeticFailure op (operands.map fun (r, value) ↦ (e.register r, value)) =
      e.failure (arithmeticFailure op operands) := by
  rw [arithmeticFailure, arithmeticFailure, List.all_map]
  simp only [Function.comp_def]
  split <;> rfl

/-- Arithmetic under other names has the same outcome, or the same failure under these names. -/
theorem compute_renamed (op : Arithmetic) (result source : Register) (a b : Int) :
    op.compute (e.register result) (e.register source) a b =
      (op.compute result source a b).mapError e.failure := by
  cases op with
  | add => rfl
  | sub => rfl
  | mul => rfl
  | div =>
    by_cases hzero : b = 0
    · have hoperands : (if e.register result = e.register source then [(e.register result, b)]
          else [(e.register result, a), (e.register source, b)]) =
            (if result = source then [(result, b)] else [(result, a), (source, b)]).map
              fun (r, value) ↦ (e.register r, value) := by
        simp only [e.register.injective.eq_iff]
        split <;> rfl
      rw [Arithmetic.compute, if_pos hzero, Arithmetic.compute, if_pos hzero, hoperands,
        arithmeticFailure_map]
      rfl
    · rw [Arithmetic.compute, if_neg hzero, Arithmetic.compute, if_neg hzero]
      rfl

/-- **An operation does the same under its other names.** -/
theorem InStep.apply (hhosts : e.Hosts m₀ n₀) (h : e.InStep m₀ n₀ m n) {operation : Operation}
    (hmem : operation ∈ m₀.operations) :
    e.InStep m₀ n₀ (operation.apply m).1 ((e.operation operation).apply n).1 ∧
      e.Answers (operation.apply m).2 ((e.operation operation).apply n).2 := by
  cases operation with
  | arithmetic op result source =>
    simp only [Embedding.operation, Operation.apply, h.registers, compute_renamed]
    cases op.compute result source (m.registers.get result) (m.registers.get source) with
    | ok value => exact ⟨h.set result value, .advance⟩
    | error f => exact ⟨h, .failure (e.renames_failure f)⟩
  | mov result value => exact ⟨h.set result value, .advance⟩
  | out source =>
    simp only [Embedding.operation, Operation.apply, h.registers]
    cases writeDecimal (m.registers.get source) with
    | error e => exact ⟨h, .failure (.same _)⟩
    | ok text =>
      rcases hm : m.emit text with ⟨m', f?⟩
      rcases hn : n.emit text with ⟨n', g?⟩
      obtain ⟨hnext, rfl⟩ : e.InStep m₀ n₀ m' n' ∧ g? = f? := by
        simpa only [hm, hn] using h.emit hhosts text
      simp only [hm, hn]
      cases g? with
      | none => exact ⟨hnext, .advance⟩
      | some f => exact ⟨hnext, .failure (.same f)⟩
  | jnz source target =>
    simp only [Embedding.operation, Operation.apply, h.registers]
    split
    · exact ⟨h, .advance⟩
    · refine ⟨h, ?_⟩
      have hget : n.labels.get? (e.label target) =
          (m.labels.get? target).map (· + (e.lead.size : Int)) := by
        rw [h.left.labels, h.right.labels]
        exact hhosts.labels source target hmem
      rw [LabelTable.resolve, LabelTable.resolve, hget]
      cases hplace : m.labels.get? target with
      | none => exact .failure (.label target)
      | some place =>
        refine .jump place fun hpos ↦ hhosts.nonneg hpos target place ?_
        rw [← h.left.labels, hplace]
  | draft kind => exact ⟨h, .failure (.same _)⟩

namespace InStep

/-! ### One round -/

theorem goto (h : e.InStep m₀ n₀ m n) {place place' : Int} (hplace : place' = place + e.lead.size)
    (hnonneg : 0 < e.lead.size → 0 ≤ place) : e.InStep m₀ n₀ (m.goto place) (n.goto place') :=
  ⟨h.left.trans ⟨rfl, rfl, rfl, rfl⟩, h.right.trans ⟨rfl, rfl, rfl, rfl⟩, h.registers, hplace,
    hnonneg, h.status, h.output.offered, h.output.emitted⟩

theorem follow (h : e.InStep m₀ n₀ m n) {t u : Transfer} (hanswers : e.Answers (.ok t) (.ok u)) :
    e.InStep m₀ n₀ (m.follow t) (n.follow u) := by
  have hpc := h.pc
  have hnonneg := h.nonneg
  cases hanswers with
  | advance => exact h.goto (by omega) (by omega)
  | jump place hplace => exact h.goto rfl hplace

theorem isShowable_iff (h : e.InStep m₀ n₀ m n) (hlead : e.lead.size = 0) :
    n.IsShowable ↔ m.IsShowable := by
  have hpc : n.pc = m.pc := by
    rw [h.pc, hlead]
    exact Int.add_zero _
  have hregisters : n.registers.IsShort ↔ m.registers.IsShort := by
    constructor
    · intro hshort r
      rw [← h.registers]
      exact hshort _
    · intro hshort r
      rw [← e.register.apply_symm_apply r, h.registers]
      exact hshort _
  exact ⟨fun hn ↦ ⟨hpc ▸ hn.pc, hregisters.1 hn.registers⟩,
    fun hm ↦ ⟨hpc ▸ hm.pc, hregisters.2 hm.registers⟩⟩

/-- Both traces are written, or neither can be. -/
theorem traced (hhosts : e.Hosts m₀ n₀) (h : e.InStep m₀ n₀ m n) :
    e.InStep m₀ n₀ m.traced.1 n.traced.1 ∧ n.traced.2 = m.traced.2 := by
  have htrace : n.trace = m.trace := by
    rw [h.left.trace, h.right.trace]
    exact hhosts.trace
  by_cases hon : m.trace = true
  · have hlead : e.lead.size = 0 := by
      by_contra hpos
      have hoff := hhosts.quiet (Nat.pos_of_ne_zero hpos)
      simp [h.left.trace, hoff] at hon
    by_cases hshow : m.IsShowable
    · obtain ⟨text, htext⟩ := exists_dumpText_iff.2 hshow
      obtain ⟨text', htext'⟩ := exists_dumpText_iff.2 ((h.isShowable_iff hlead).2 hshow)
      rw [Machine.traced, if_pos hon, Machine.traced, if_pos (htrace.trans hon), dump, dump, htext,
        htext']
      exact ⟨⟨h.left.trans ⟨rfl, rfl, rfl, rfl⟩, h.right.trans ⟨rfl, rfl, rfl, rfl⟩, h.registers,
        h.pc, h.nonneg, h.status, h.output.offered, h.output.emitted⟩, rfl⟩
    · rw [traced_of_not_isShowable hon hshow,
        traced_of_not_isShowable (htrace.trans hon) ((h.isShowable_iff hlead).not.2 hshow)]
      exact ⟨h, rfl⟩
  · rw [Machine.traced, if_neg hon, Machine.traced, if_neg (htrace ▸ hon)]
    exact ⟨h, rfl⟩

theorem halt (h : e.InStep m₀ n₀ m n) (reason : HaltReason) :
    e.InStep m₀ n₀ (m.halt reason) (n.halt reason) :=
  ⟨h.left.trans ⟨rfl, rfl, rfl, rfl⟩, h.right.trans ⟨rfl, rfl, rfl, rfl⟩, h.registers, h.pc,
    h.nonneg, rfl, h.output.offered, h.output.emitted⟩

theorem afterFailure (h : e.InStep m₀ n₀ m n) {f g : Failure} (hrenames : e.Renames f g) :
    e.InStep m₀ n₀ (m.afterFailure f) (n.afterFailure g) := by
  rw [Machine.afterFailure, Machine.afterFailure, hrenames.isFault_eq]
  split
  · exact h.halt .fault
  · exact h

/-- **One round keeps machines in step.** -/
theorem round (hhosts : e.Hosts m₀ n₀) (h : e.InStep m₀ n₀ m n) :
    m.round.Matches (e.InStep m₀ n₀) (Option.Rel e.Renames) n.round := by
  cases hinside : m.isInside with
  | false =>
    rw [round_of_outside hinside, round_of_outside ((h.isInside_eq hhosts).trans hinside)]
    exact .ended (h.halt .normal) .none
  | true =>
    obtain ⟨i, hi, hat⟩ := exists_standsAt hinside
    have hmem : i.operation ∈ m₀.operations := by
      rw [operations, ← h.left.program]
      exact Array.mem_map_of_mem hi
    obtain ⟨hnext, hanswers⟩ := h.apply hhosts hmem
    rcases hm : i.operation.apply m with ⟨m', f | t⟩ <;>
      rcases hn : (e.operation i.operation).apply n with ⟨n', g | u⟩ <;>
      rw [hm, hn] at hnext hanswers
    · rw [round_of_apply_error hat hm, round_of_apply_error (h.standsAt hhosts hat) hn]
      cases hanswers with
      | failure hrenames => exact .ended (hnext.afterFailure hrenames) (.some hrenames)
    · exact nomatch hanswers
    · exact nomatch hanswers
    · obtain ⟨htraced, hsame⟩ := (hnext.follow hanswers).traced hhosts
      rw [round_of_apply hat hm, round_of_apply (h.standsAt hhosts hat) hn]
      generalize (m'.follow t).traced = x, (n'.follow u).traced = y at htraced hsame
      obtain ⟨s, f?⟩ := x
      obtain ⟨s', g?⟩ := y
      obtain rfl : g? = f? := hsame
      cases g? with
      | none => exact .running htraced
      | some f => exact .ended (htraced.afterFailure (.same f)) (.some (.same f))

/-- **Machines in step run in step.** -/
theorem run (hhosts : e.Hosts m₀ n₀) (h : e.InStep m₀ n₀ m n) (rounds : Nat) :
    (m.run rounds).Matches (e.InStep m₀ n₀) (Option.Rel e.Renames) (n.run rounds) :=
  matches_run (fun h ↦ h.round hhosts) h rounds

end InStep

/-- A run starts in step, where the program begins in the one machine and in the other. -/
theorem inStep_start (e : Embedding) (m n : Machine) :
    e.InStep m n m.start (n.start.goto e.lead.size) where
  left := ⟨rfl, rfl, rfl, rfl⟩
  right := ⟨rfl, rfl, rfl, rfl⟩
  registers r := by simp [start, goto]
  pc := by simp [start, goto]
  nonneg _ := Int.le_refl 0
  status := rfl
  output := ⟨(SameOutput.refl m n).offered, (SameOutput.refl m n).emitted⟩

/-! ### The same names -/

/-- The program with the names that it has, after some operations. -/
def after (lead : Array Operation) : Embedding := ⟨Equiv.refl Register, id, lead⟩

theorem operation_after (lead : Array Operation) : (after lead).operation = id := by
  funext operation
  cases operation <;> rfl

theorem eq_of_renames_after {lead : Array Operation} {f g : Failure}
    (h : (after lead).Renames f g) : f = g := by
  cases h with
  | same => rfl
  | label => rfl
  | arithmetic op operands =>
    have hid : (operands.map fun (r, value) ↦ ((after lead).register r, value)) = operands :=
      List.map_id operands
    rw [hid]

theorem InStep.registers_eq {lead : Array Operation} (h : (after lead).InStep m₀ n₀ m n) :
    n.registers = m.registers :=
  RegisterFile.ext_get h.registers

/-- **Under the same names, machines in step have the same endings.** -/
theorem InStep.run_after {lead : Array Operation} (hhosts : (after lead).Hosts m₀ n₀)
    (h : (after lead).InStep m₀ n₀ m n) (rounds : Nat) :
    (m.run rounds).Matches ((after lead).InStep m₀ n₀) (· = ·) (n.run rounds) := by
  refine (h.run hhosts rounds).mono (fun _ _ ↦ id) fun f? g? hf ↦ ?_
  cases hf with
  | none => rfl
  | some hrenames => rw [eq_of_renames_after hrenames]

end Embedding

end RegisterMachine
