import RegisterMachine.Proofs.Machine.Endings

/-!
# The life of a machine

A machine is loaded, executed, stepped, halted and edited, in any order and as often as one likes,
and any of this may fail: a source breaks off, an instruction faults, the sink refuses a text, a
trace cannot be written. Still its state and its reason for a halt follow **one table of
transitions** (`Action.statusAfter`): only an execution and a halt ever change them, and an
execution sets both by its ending alone, whatever they were before. What is said here of all
histories (`status_of_history`) comes from this table and from what one action does
(`Machine.Does.status`).

The state and the reason are kept apart, and a machine can be made in which they contradict each
other. **A fresh machine never comes to that**: they match at first (`Status.IsMatched`), and every
row of the table keeps them so (`Action.isMatched_statusAfter`), hence every history does
(`Machine.Leads.isMatched`).

How an execution ends is read off its last round (`Machine.Ends.last_round`): either the program
counter has left the program, or a step has failed. A failing step has not touched the status, so a
failure that does not halt the machine leaves it running; and a fault leaves the program counter
where it was.
-/

namespace RegisterMachine

open Machine

/-! ### What can be done to a machine -/

/-- A change that is made by hand. -/
inductive Edit where
  | setRegister (r : Register) (value : Int)
  | setPc (place : Int)
  | setTrace (trace : Bool)
  | setLabels (labels : LabelTable)
  | define (label : String) (place : Int)
  | append (i : Instruction)
  | dropLast

/-- What can be done to a machine. -/
inductive Action where
  | load (source : LineSource)
  | execute
  | step
  | halt (reason : HaltReason)
  | edit (change : Edit)

/-- Changes a machine by hand, if this is possible. -/
def Edit.apply (m : Machine) : Edit → Except Failure Machine
  | setRegister r value => .ok { m with registers := m.registers.set r value }
  | setPc place => .ok { m with pc := place }
  | setTrace trace => .ok { m with trace }
  | setLabels labels => .ok { m with labels }
  | define label place => m.define label place
  | append i => .ok (m.append i)
  | dropLast => m.dropLast

namespace Machine

/-- The action comes to its end, and leaves the machine as given and with the failure, if it is
one. An execution that goes on forever comes to no end. -/
inductive Does (m : Machine) : Action → Machine → Option Failure → Prop
  | load {source : LineSource} {n : Machine} {diagnostics : Array Diagnostic}
      (h : m.load source = (n, .ok diagnostics)) : Does m (.load source) n none
  | breakOff {source : LineSource} {n : Machine} {f : Failure}
      (h : m.load source = (n, .error f)) : Does m (.load source) n (some f)
  | execute {n : Machine} {f? : Option Failure} (h : m.Ends n f?) : Does m .execute n f?
  | step {n : Machine} {f? : Option Failure} (h : m.step = (n, f?)) : Does m .step n f?
  | halt (reason : HaltReason) : Does m (.halt reason) (m.halt reason) none
  | edit {change : Edit} {n : Machine} (h : change.apply m = .ok n) : Does m (.edit change) n none
  | refuse {change : Edit} {f : Failure} (h : change.apply m = .error f) :
      Does m (.edit change) m (some f)

/-- Actions, each with its failure, if it had one, have led from one machine to another. -/
inductive Leads (m : Machine) : List (Action × Option Failure) → Machine → Prop
  | start : Leads m [] m
  | next {past : List (Action × Option Failure)} {s n : Machine} {action : Action}
      {f? : Option Failure} (h : Leads m past s) (hdoes : s.Does action n f?) :
      Leads m (past ++ [(action, f?)]) n

end Machine

/-- **The table of transitions**: the status after an action that ended so, by the status before. -/
def Action.statusAfter : Action → Option Failure → Status → Status
  | .execute, none, _ => .halted .normal
  | .execute, some f, _ => if f.isFault then .halted .fault else .running
  | .halt reason, _, _ => .halted reason
  | .load _, _, status => status
  | .step, _, status => status
  | .edit _, _, status => status

/-- There is a reason for a halt exactly if there is a halt. -/
def Status.IsMatched (status : Status) : Prop := status.haltReason? = none ↔ status.state ≠ .halted

instance (status : Status) : Decidable status.IsMatched :=
  inferInstanceAs (Decidable (status.haltReason? = none ↔ status.state ≠ .halted))

/-- **Every row of the table keeps state and reason matched.** An execution and a halt match them
anew, and what else is done leaves both alone. -/
theorem Action.isMatched_statusAfter (action : Action) (f? : Option Failure) {status : Status}
    (h : status.IsMatched) : (action.statusAfter f? status).IsMatched := by
  have hhalted : ∀ reason, (Status.halted reason).IsMatched := by
    intro reason
    cases reason <;> decide
  cases action with
  | execute =>
    cases f? with
    | none => exact hhalted .normal
    | some f =>
      rw [statusAfter]
      split
      · exact hhalted .fault
      · decide
  | halt reason => exact hhalted reason
  | load source => exact h
  | step => exact h
  | edit change => exact h

/-! ### What each action does to the status -/

theorem Edit.status_apply {change : Edit} {m n : Machine} (h : change.apply m = .ok n) :
    n.status = m.status := by
  cases change with
  | define label place =>
    rw [apply, Machine.define, LabelTable.define] at h
    split at h <;> cases h
    rfl
  | dropLast =>
    rw [apply, Machine.dropLast] at h
    split at h <;> cases h
    rfl
  | _ =>
    cases h
    rfl

namespace Machine

variable {m n : Machine}

theorem status_load (m : Machine) (source : LineSource) : (m.load source).1.status = m.status := by
  rw [fst_load]
  rfl

/-- **The last round of an execution**: the program counter has left the program, or a step has
failed. -/
theorem Ends.last_round {f? : Option Failure} (h : m.Ends n f?) :
    ∃ k s, m.execute k = .running s ∧
      (f? = none ∧ s.isInside = false ∧ n = s.halt .normal ∨
        ∃ t f, f? = some f ∧ s.step = (t, some f) ∧ n = t.afterFailure f) := by
  obtain ⟨k, s, hrun, hround⟩ := exists_run_eq_ended_iff.1 h
  refine ⟨k, s, hrun, ?_⟩
  rw [round] at hround
  split at hround
  next =>
    rcases hstep : s.step with ⟨t, - | f⟩
    · rw [hstep] at hround
      cases hround
    · rw [hstep] at hround
      cases hround
      exact .inr ⟨t, f, rfl, rfl, rfl⟩
  next hinside =>
    cases hround
    exact .inl ⟨rfl, Bool.eq_false_iff.2 hinside, rfl⟩

theorem status_afterFailure (m : Machine) (f : Failure) :
    (m.afterFailure f).status = if f.isFault then .halted .fault else m.status := by
  rw [afterFailure]
  split <;> rfl

/-- An execution leaves the status that its ending asks for. -/
theorem Ends.status {f? : Option Failure} (h : m.Ends n f?) :
    n.status = Action.statusAfter .execute f? m.status := by
  obtain ⟨k, s, hrun, ⟨rfl, -, rfl⟩ | ⟨t, f, rfl, hstep, rfl⟩⟩ := h.last_round
  · rfl
  · have ht : t.status = .running := by
      have hkeeps := s.keeps_step.status
      rw [hstep] at hkeeps
      exact hkeeps.trans (status_of_execute hrun)
    rw [status_afterFailure, ht]
    rfl

/-- **Every action follows the table.** -/
theorem Does.status {action : Action} {f? : Option Failure} (h : m.Does action n f?) :
    n.status = action.statusAfter f? m.status := by
  cases h with
  | @load source _ _ h =>
    have hstatus := m.status_load source
    rwa [h] at hstatus
  | @breakOff source _ _ h =>
    have hstatus := m.status_load source
    rwa [h] at hstatus
  | execute h => exact h.status
  | step h =>
    have hstatus := m.keeps_step.status
    rwa [h] at hstatus
  | halt reason => rfl
  | edit h => exact Edit.status_apply h
  | refuse h => rfl

/-- **Every history follows the table.** -/
theorem Leads.status {past : List (Action × Option Failure)} (h : m.Leads past n) :
    n.status = past.foldl (fun status done ↦ done.1.statusAfter done.2 status) m.status := by
  induction h with
  | start => rfl
  | next _ hdoes ih => rw [hdoes.status, ih, List.foldl_append, List.foldl_cons, List.foldl_nil]

/-- **Whatever is done, state and reason stay matched.** -/
theorem Leads.isMatched {past : List (Action × Option Failure)} (h : m.Leads past n)
    (hm : m.status.IsMatched) : n.status.IsMatched := by
  induction h with
  | start => exact hm
  | next _ hdoes ih =>
    rw [hdoes.status]
    exact Action.isMatched_statusAfter _ _ ih

/-- The step that ends an execution with a fault leaves the program counter where it was. -/
theorem Ends.exists_step_of_fault {f : Fault} (h : m.Ends n (some (.fault f))) :
    ∃ k s t, m.execute k = .running s ∧ s.step = (t, some (.fault f)) ∧ n = t.halt .fault ∧
      n.pc = s.pc := by
  obtain ⟨k, s, hrun, ⟨hf, -⟩ | ⟨t, _, ⟨⟩, hstep, rfl⟩⟩ := h.last_round
  · cases hf
  · exact ⟨k, s, t, hrun, hstep, rfl, (t.pc_afterFailure _).trans (pc_step_of_fault hstep)⟩

theorem Ends.isInside_of_none (h : m.Ends n none) : n.isInside = false := by
  obtain ⟨k, s, -, ⟨-, hinside, rfl⟩ | ⟨t, f, hf, -⟩⟩ := h.last_round
  · exact hinside
  · cases hf

end Machine

/-- **The status of a machine**, which is its state and its reason for a halt. A fresh machine with
any sink and any trace flag goes through any history: sources are loaded, to their end or not,
programs are executed to an ending, single instructions are executed, and the machine is halted and
edited by hand. Its status is then what the table of transitions makes of the history, and it has no
reason exactly if it has not halted. A load and a single instruction leave the status alone,
whatever becomes of them. In the middle of an execution the machine is running, without a reason. An
execution that returns leaves it halted normally, with the program counter outside of the program;
one that a fault ends, of the program or of the sink, leaves it halted by the fault, with the
program counter where the failing step found it; and one that any other failure ends leaves it
running, without a reason. -/
theorem status_of_history {sink : Sink} {trace : Bool} {past : List (Action × Option Failure)}
    {m : Machine} (h : Leads { sink, trace } past m) :
    m.status = past.foldl (fun status done ↦ done.1.statusAfter done.2 status) .idle ∧
    (m.haltReason? = none ↔ m.state ≠ .halted) ∧
    (∀ source, (m.load source).1.status = m.status) ∧ m.step.1.status = m.status ∧
    (∀ k s, m.execute k = .running s → s.status = .running) ∧
    ∀ n f?, m.Ends n f? →
      (f? = none → n.status = .halted .normal ∧ ¬(0 ≤ n.pc ∧ n.pc < n.program.size)) ∧
      (∀ f, f? = some (.fault f) → n.status = .halted .fault ∧
        ∃ k s t, m.execute k = .running s ∧ s.step = (t, some (.fault f)) ∧ n = t.halt .fault ∧
          n.pc = s.pc) ∧
      ∀ f, f? = some f → f.isFault = false → n.status = .running := by
  have hfresh : ({ sink, trace } : Machine).status.IsMatched := by
    show Status.IsMatched .idle
    decide
  refine ⟨h.status, h.isMatched hfresh, m.status_load, m.keeps_step.status,
    fun k s ↦ status_of_execute, fun n f? hends ↦ ⟨?_, ?_, ?_⟩⟩
  · rintro rfl
    refine ⟨hends.status, ?_⟩
    rw [← isInside_iff, Bool.not_eq_true]
    exact hends.isInside_of_none
  · rintro f rfl
    exact ⟨hends.status, hends.exists_step_of_fault⟩
  · rintro f rfl hf
    rw [hends.status, Action.statusAfter, if_neg (by simp [hf])]

/-- A state and a reason that contradict each other can be put together. -/
example : ¬({ state := .running, haltReason? := some .fault } : Machine).status.IsMatched := by
  decide

/-- A sink that refuses a text with a fault, and the next one with an error of its own; then a
source that breaks off. -/
theorem status_of_history_of_refusals :
    let closed : Failure := .raised "RuntimeError" "closed"
    let sink : Sink := fun texts ↦
      if texts.size = 1 then some (.fault (.output "full")) else some closed
    ∃ m, Leads { sink } [(.edit (.append ⟨none, .out .eax⟩), none),
        (.execute, some (.fault (.output "full"))), (.execute, some closed),
        (.load ⟨["out EBX"], some .interrupted⟩, some .interrupted)] m ∧
      m.status = .running ∧ m.state ≠ .halted := by
  intro closed sink
  let machine (offered : Array String) (status : Status) : Machine :=
    { program := #[⟨none, .out .eax⟩], sink, offered,
      state := status.state, haltReason? := status.haltReason? }
  have hzero : Text.writeDecimal (RegisterFile.zero.get .eax) = .ok "0" := by decide +kernel
  have hends : ∀ (offered : Array String) (status : Status) {f : Failure},
      sink (offered.push "0") = some f → (machine offered status).Ends
        ((machine (offered.push "0") .running).afterFailure f) (some f) := by
    intro offered status f hsink
    have hat : (machine offered status).start.StandsAt (.out .eax) := ⟨0, _, rfl, rfl, rfl⟩
    have hfails : Operation.Fails (machine offered status).start (.out .eax)
        (machine (offered.push "0") .running) f := .refused hzero hsink
    exact .of_round (k := 0) rfl (round_of_apply_error hat (Operation.apply_eq_error_iff.2 hfails))
  have happend : Does { sink } (.edit (.append ⟨none, .out .eax⟩)) (machine #[] .idle) none :=
    .edit rfl
  have hfault : (machine #[] .idle).Does .execute (machine #["0"] (.halted .fault))
      (some (.fault (.output "full"))) := .execute (hends #[] .idle rfl)
  have hbroken : (machine #["0"] (.halted .fault)).Does .execute (machine #["0", "0"] .running)
      (some closed) := .execute (hends #["0"] (.halted .fault) rfl)
  have hload : (machine #["0", "0"] .running).Does (.load ⟨["out EBX"], some .interrupted⟩) _
      (some .interrupted) := .breakOff rfl
  have hleads := (((Leads.start.next happend).next hfault).next hbroken).next hload
  obtain ⟨hstatus, hreason, -⟩ := status_of_history hleads
  exact ⟨_, hleads, hstatus, hreason.1 (congrArg Status.haltReason? hstatus)⟩

end RegisterMachine
