import Mathlib.Data.Set.Function
import RegisterMachine.Proofs.Machine.Correspondence

/-!
# Programs under other names

A register is told from another by what it holds, and a label by the place it is bound to; their
names mean nothing. So a program whose registers are permuted and whose labels are renamed **does
the same under the other names** (`execute_renamed`): the program counter and the output are the
same after every number of rounds, the registers have changed places, and a fault shows the other
names.

Labels may even be renamed by a function that confuses some names, as long as it keeps those apart
that occur: the ones that are bound, and the ones that jumps ask for (`Machine.labelNames`). This is
what a look-up under the other name needs (`LabelTable.get?_rename`).

That both machines run in step is known of every program that stands in another; here the program
stands at the same place. What is left to say is **how the failures at the end are related**. A
failure of the program has its names replaced (`Embedding.failure`). A failure that the sink answers
belongs to the sink, whatever names it may show, and is the same on both sides. The two are told
apart by the output: only where the sink refused a text, more was offered than accepted
(`Machine.AllTaken`).
-/

namespace RegisterMachine

open Text Machine

/-! ### Tables under other names -/

namespace LabelTable

/-- The table with other names for the same places. -/
def rename (table : LabelTable) (label : String → String) : LabelTable :=
  table.entries.foldr (fun entry renamed ↦ renamed.insert (label entry.1) entry.2) .empty

/-- **A name that is kept apart from those of the table is found under its other name.** -/
theorem get?_rename {table : LabelTable} {label : String → String} {names : Set String}
    (hinj : Set.InjOn label names) (hnames : ∀ entry ∈ table.entries, entry.1 ∈ names)
    {name : String} (hname : name ∈ names) :
    (table.rename label).get? (label name) = table.get? name := by
  rw [rename, get?.eq_def table]
  generalize table.entries = entries at hnames
  induction entries with
  | nil => rfl
  | cons entry rest ih =>
    obtain ⟨hentry, hrest⟩ := List.forall_mem_cons.1 hnames
    rw [List.foldr_cons, get?_insert, ih hrest, lookup_cons]
    simp only [hinj.eq_iff hname hentry]

end LabelTable

/-- The labels that a machine can ask for or answer: those that are bound, and those to which a
jump goes. -/
def Machine.labelNames (m : Machine) : Set String :=
  {name | m.labels.contains name = true ∨ ∃ source, .jnz source name ∈ m.operations}

theorem Machine.mem_labelNames_of_mem {m : Machine} {entry : String × Int}
    (h : entry ∈ m.labels.entries) : entry.1 ∈ m.labelNames :=
  .inl (List.lookup_isSome_iff.2 ⟨entry, h, beq_self_eq_true entry.1⟩)

/-! ### Failures under other names -/

/-- All that was offered to the sink since the machine was `m₀` has been accepted. -/
def Machine.AllTaken (m₀ m : Machine) : Prop :=
  ∃ texts, m.offered = m₀.offered ++ texts ∧ m.emitted = m₀.emitted ++ texts

@[simp] theorem Machine.offered_afterFailure (m : Machine) (f : Failure) :
    (m.afterFailure f).offered = m.offered := by
  rw [afterFailure]
  split <;> rfl

@[simp] theorem Machine.emitted_afterFailure (m : Machine) (f : Failure) :
    (m.afterFailure f).emitted = m.emitted := by
  rw [afterFailure]
  split <;> rfl

/-- A trace that cannot be written shows a number which is too long. -/
theorem Machine.exists_digits_of_traced {m n : Machine} {f : Failure}
    (h : m.traced = (n, some f)) : ∃ e, f = .digits e := by
  rw [traced] at h
  split at h
  · rw [dump] at h
    split at h
    · cases h
    · exact ⟨_, (Option.some.inj (Prod.mk.inj h).2).symm⟩
  · cases h

namespace Machine.AllTaken

variable {m n o : Machine}

theorem of_eq (hoffered : n.offered = m.offered) (hemitted : n.emitted = m.emitted) :
    m.AllTaken n :=
  ⟨#[], by simpa using hoffered, by simpa using hemitted⟩

theorem trans (h : m.AllTaken n) (h' : n.AllTaken o) : m.AllTaken o := by
  obtain ⟨texts, hoffered, hemitted⟩ := h
  obtain ⟨more, hoffered', hemitted'⟩ := h'
  exact ⟨texts ++ more, by rw [hoffered', hoffered, Array.append_assoc],
    by rw [hemitted', hemitted, Array.append_assoc]⟩

/-- A text that is offered and not accepted breaks the balance. -/
theorem not_of_push (h : m.AllTaken n) {text : String} (hoffered : o.offered = n.offered.push text)
    (hemitted : o.emitted = n.emitted) : ¬m.AllTaken o := by
  obtain ⟨texts, hn, hn'⟩ := h
  rintro ⟨more, ho, ho'⟩
  have hsize := congrArg Array.size (ho.symm.trans hoffered)
  have hsize' := congrArg Array.size (ho'.symm.trans hemitted)
  simp only [hn, hn', Array.size_append, Array.size_push] at hsize hsize'
  omega

/-- Writing a trace is no output. -/
theorem traced (m : Machine) : m.AllTaken m.traced.1 := by
  rw [Machine.traced]
  split
  · rw [dump]
    split <;> exact .of_eq rfl rfl
  · exact .of_eq rfl rfl

theorem follow (m : Machine) (transfer : Transfer) : m.AllTaken (m.follow transfer) := by
  cases transfer <;> exact .of_eq rfl rfl

theorem afterFailure (m : Machine) (f : Failure) : m.AllTaken (m.afterFailure f) :=
  .of_eq (m.offered_afterFailure f) (m.emitted_afterFailure f)

/-- What an operation offers is accepted, if the operation does not fail. -/
theorem of_apply_ok {operation : Operation} {transfer : Transfer}
    (h : operation.apply m = (n, .ok transfer)) : m.AllTaken n := by
  cases operation with
  | arithmetic op result source =>
    rw [Operation.apply] at h
    split at h <;> cases h
    exact .of_eq rfl rfl
  | mov result value =>
    cases h
    exact .of_eq rfl rfl
  | out source =>
    rw [Operation.apply] at h
    split at h
    · cases h
    next text hwrite =>
      cases hsink : m.sink (m.offered.push text) with
      | none =>
        simp only [emit, hsink] at h
        cases h
        exact ⟨#[text], by simp⟩
      | some f => simp [emit, hsink] at h
  | jnz source target =>
    rw [Operation.apply] at h
    split at h <;> obtain ⟨rfl, -⟩ := Prod.mk.inj h <;> exact .of_eq rfl rfl
  | draft kind => cases h

/-- In a round that goes on, all that is offered is accepted. -/
theorem of_round (h : m.round = .running n) : m.AllTaken n := by
  cases hinside : m.isInside with
  | false => cases (round_of_outside hinside).symm.trans h
  | true =>
    obtain ⟨i, -, hat⟩ := exists_standsAt hinside
    rcases happly : i.operation.apply m with ⟨m', f | transfer⟩
    · cases (round_of_apply_error hat happly).symm.trans h
    · have hround := (round_of_apply hat happly).symm.trans h
      split at hround
      next s htraced =>
        cases hround
        have htaken := ((of_apply_ok happly).trans (follow m' transfer)).trans (traced _)
        rwa [htraced] at htaken
      next => cases hround

/-- **A run that goes on has had all its texts accepted.** -/
theorem of_execute {k : Nat} {s : Machine} (h : m.execute k = .running s) : m.AllTaken s := by
  induction k generalizing s with
  | zero =>
    cases h
    exact .of_eq rfl rfl
  | succ k ih =>
    obtain ⟨t, hrun, hround⟩ := run_succ_eq_running_iff.1 h
    exact (ih hrun).trans (of_round hround)

end Machine.AllTaken

namespace Embedding

variable {e : Embedding} {m₀ n₀ m n m' n' : Machine}

/-- **A failing operation fails alike under its other names**: the program is at fault, or the sink
refuses the same text with the same failure. -/
theorem InStep.fails (hhosts : e.Hosts m₀ n₀) (h : e.InStep m₀ n₀ m n) {operation : Operation}
    {f : Failure} (hmem : operation ∈ m₀.operations) (hfails : operation.Fails m m' f) :
    m.AllTaken m' ∧ (∃ n', (e.operation operation).Fails n n' (e.failure f)) ∨
      (∃ text, m'.offered = m.offered.push text ∧ m'.emitted = m.emitted) ∧
        m.sink m'.offered = some f ∧ ∃ n', (e.operation operation).Fails n n' f := by
  cases hfails with
  | @arithmetic op result source f hcompute =>
    have hrenamed : op.compute (e.register result) (e.register source)
        (n.registers.get (e.register result)) (n.registers.get (e.register source)) =
          .error (e.failure f) := by
      rw [h.registers, h.registers, compute_renamed, hcompute]
      rfl
    exact .inl ⟨.of_eq rfl rfl, _, .arithmetic hrenamed⟩
  | long hwrite => exact .inl ⟨.of_eq rfl rfl, _, .long (h.registers _ ▸ hwrite)⟩
  | @refused source text f hwrite hsink =>
    have hsink' : n.sink (n.offered.push text) = some f := by
      rw [h.sink_eq hhosts]
      exact hsink
    exact .inr ⟨⟨text, rfl, rfl⟩, hsink, _, .refused (h.registers _ ▸ hwrite) hsink'⟩
  | @label source target hne hnone =>
    have hnone' : n.labels.get? (e.label target) = none := by
      rw [h.right.labels, hhosts.labels source target hmem, ← h.left.labels, hnone]
      rfl
    exact .inl ⟨.of_eq rfl rfl, _, .label (h.registers source ▸ hne) hnone'⟩
  | draft kind => exact .inl ⟨.of_eq rfl rfl, _, .draft kind⟩

/-- How the endings of two runs are related, where the first has ended in `s` and began in `m`: the
names are replaced if the program failed, and nothing is if the sink did. -/
inductive EndsAlike (e : Embedding) (m s : Machine) : Option Failure → Option Failure → Prop
  | program (h : m.AllTaken s) (f? : Option Failure) : EndsAlike e m s f? (f?.map e.failure)
  | sink (h : ¬m.AllTaken s) {f : Failure} (hf : m.sink s.offered = some f) :
      EndsAlike e m s (some f) (some f)

/-- An operation that fails ends the run alike under its other name. -/
theorem InStep.endsAlike_apply (hhosts : e.Hosts m₀ n₀) (h : e.InStep m₀ n₀ m n)
    (htaken : m₀.AllTaken m) {operation : Operation} {f : Failure}
    (hmem : operation ∈ m₀.operations) (happly : operation.apply m = (m', .error f)) :
    ∃ n' g, (e.operation operation).apply n = (n', .error g) ∧
      e.EndsAlike m₀ (m'.afterFailure f) (some f) (some g) := by
  rcases h.fails hhosts hmem (Operation.apply_eq_error_iff.1 happly) with
    ⟨htaken', n', hfails⟩ | ⟨⟨text, hoffered, hemitted⟩, hsink, n', hfails⟩
  · have hends := (htaken.trans htaken').trans (.afterFailure m' f)
    exact ⟨n', _, Operation.apply_eq_error_iff.2 hfails, .program hends (some f)⟩
  · have hends : ¬m₀.AllTaken (m'.afterFailure f) :=
      htaken.not_of_push (by simpa using hoffered) (by simpa using hemitted)
    have hsink' : m₀.sink (m'.afterFailure f).offered = some f := by
      rw [offered_afterFailure, ← h.left.sink, hsink]
    exact ⟨n', f, Operation.apply_eq_error_iff.2 hfails, .sink hends hsink'⟩

/-- A trace that cannot be written ends the run alike, because it shows no names. -/
theorem InStep.endsAlike_traced (hhosts : e.Hosts m₀ n₀) (h : e.InStep m₀ n₀ m n)
    (htaken : m₀.AllTaken m) {f : Failure} (hm : m.traced = (m', some f)) :
    ∃ n', n.traced = (n', some f) ∧ e.EndsAlike m₀ (m'.afterFailure f) (some f) (some f) := by
  obtain ⟨-, hsame⟩ := h.traced hhosts
  have htaken' := htaken.trans (.traced m)
  rw [hm] at hsame htaken'
  obtain ⟨e', rfl⟩ := exists_digits_of_traced hm
  have hends := htaken'.trans (.afterFailure m' (.digits e'))
  exact ⟨_, Prod.ext rfl hsame, .program hends (some (.digits e'))⟩

/-- **A last round ends alike under other names.** -/
theorem InStep.endsAlike_round (hhosts : e.Hosts m₀ n₀) (h : e.InStep m₀ n₀ m n)
    (htaken : m₀.AllTaken m) {f? g? : Option Failure} (hm : m.round = .ended m' f?)
    (hn : n.round = .ended n' g?) : e.EndsAlike m₀ m' f? g? := by
  cases hinside : m.isInside with
  | false =>
    cases (round_of_outside hinside).symm.trans hm
    cases (round_of_outside ((h.isInside_eq hhosts).trans hinside)).symm.trans hn
    exact .program (htaken.trans (.of_eq (n := m.halt .normal) rfl rfl)) none
  | true =>
    obtain ⟨i, hi, hat⟩ := exists_standsAt hinside
    have hat' := h.standsAt hhosts hat
    have hmem : i.operation ∈ m₀.operations := by
      rw [operations, ← h.left.program]
      exact Array.mem_map_of_mem hi
    rcases happly : i.operation.apply m with ⟨m₁, f | transfer⟩
    · obtain ⟨n₁, g, happly', hends⟩ := h.endsAlike_apply hhosts htaken hmem happly
      cases (round_of_apply_error hat happly).symm.trans hm
      cases (round_of_apply_error hat' happly').symm.trans hn
      exact hends
    · -- the operation is done, so it is the trace that fails
      obtain ⟨hnext, hanswers⟩ := h.apply hhosts hmem
      rcases happly' : (e.operation i.operation).apply n with ⟨n₁, g | transfer'⟩
      · rw [happly, happly'] at hanswers
        cases hanswers
      · rw [happly, happly'] at hnext hanswers
        have hfollow := hnext.follow hanswers
        have htaken' := (htaken.trans (.of_apply_ok happly)).trans (.follow m₁ transfer)
        rw [round_of_apply hat happly] at hm
        rw [round_of_apply hat' happly'] at hn
        rcases htraced : (m₁.follow transfer).traced with ⟨s, - | f⟩
        · rw [htraced] at hm
          cases hm
        · obtain ⟨t, htraced', hends⟩ := hfollow.endsAlike_traced hhosts htaken' htraced
          rw [htraced] at hm
          rw [htraced'] at hn
          cases hm
          cases hn
          exact hends

/-- **Runs in step end alike.** -/
theorem endsAlike_of_ends (hhosts : e.Hosts m n)
    (hruns : ∀ k, (m.execute k).Matches (e.InStep m n) (Option.Rel e.Renames) (n.execute k))
    {f? g? : Option Failure} (hm : m.Ends m' f?) (hn : n.Ends n' g?) : e.EndsAlike m m' f? g? := by
  obtain ⟨k, s, hrun, hround⟩ := exists_run_eq_ended_iff.1 hm
  have hk := hruns k
  rw [show m.execute k = .running s from hrun] at hk
  generalize hrun' : n.execute k = q at hk
  cases hk with
  | @running _ t hstep =>
    have hlast := hstep.round hhosts
    rw [hround] at hlast
    generalize hround' : t.round = q at hlast
    cases hlast with
    | ended _ _ =>
      obtain ⟨rfl, rfl⟩ := hn.unique (.of_round hrun' hround')
      exact hstep.endsAlike_round hhosts (.of_execute hrun) hround hround'

/-- The program at the same place, with other names. -/
def ofNames (register : Equiv.Perm Register) (label : String → String) : Embedding :=
  ⟨register, label, #[]⟩

end Embedding

namespace Machine

variable {m n : Machine}

/-- A machine has the program of another under other names. -/
structure IsRenamed (register : Equiv.Perm Register) (label : String → String) (m n : Machine) :
    Prop where
  program : n.operations = m.operations.map (Embedding.ofNames register label).operation
  labels : n.labels = m.labels.rename label

/-- What two runs that began with `m` and `n` have come to: the same but for the names of the
registers. -/
structure SameButNames (register : Equiv.Perm Register) (m n s t : Machine) : Prop where
  registers : ∀ r, t.registers.get (register r) = s.registers.get r
  pc : t.pc = s.pc
  status : t.status = s.status
  output : m.SameOutput n s t

theorem IsRenamed.hosts {register : Equiv.Perm Register} {label : String → String}
    (h : IsRenamed register label m n) (hinj : Set.InjOn label m.labelNames)
    (htrace : n.trace = m.trace) (hsinks : m.SinksAgree n) :
    (Embedding.ofNames register label).Hosts m n where
  program := by
    rw [h.program]
    exact Array.empty_append.symm
  labels source target hmem := by
    have hget : n.labels.get? (label target) = m.labels.get? target := by
      rw [h.labels]
      exact LabelTable.get?_rename hinj (fun _ ↦ mem_labelNames_of_mem) (.inr ⟨source, hmem⟩)
    simp [Embedding.ofNames, hget]
  trace := htrace
  sink := hsinks
  quiet hpos := absurd hpos (Nat.lt_irrefl 0)
  nonneg hpos := absurd hpos (Nat.lt_irrefl 0)

end Machine

/-- **Execution does not depend on names.** A machine is executed, and so is one that has the same
program with its registers permuted and its labels renamed, where no two labels that are bound or
asked for get the same name. The traces are both on or both off, and the sinks answer alike. After
every number of rounds both runs go on, or both have ended; the program counter, the status and the
output are the same, and every register holds what the one did whose place it takes. If they have
ended, they have the same ending, but for the names in a fault of the program: where the one run
misses a label, the other misses it under its new name, and where the one shows the registers of a
division by zero, the other shows those in their places, with the same values. -/
theorem execute_renamed (register : Equiv.Perm Register) (label : String → String) {m n : Machine}
    (h : IsRenamed register label m n) (hinj : Set.InjOn label m.labelNames)
    (htrace : n.trace = m.trace) (hsinks : m.SinksAgree n) (k : Nat) :
    (m.execute k).Matches (SameButNames register m n)
      ((Embedding.ofNames register label).EndsAlike m (m.execute k).machine) (n.execute k) := by
  have hhosts := h.hosts hinj htrace hsinks
  have hruns : ∀ j, (m.execute j).Matches ((Embedding.ofNames register label).InStep m n)
      (Option.Rel (Embedding.ofNames register label).Renames) (n.execute j) :=
    (Embedding.inStep_start _ m n).run hhosts
  have hsame : ∀ {s t}, (Embedding.ofNames register label).InStep m n s t →
      SameButNames register m n s t := fun hstep ↦
    ⟨hstep.registers, hstep.pc.trans (Int.add_zero _), hstep.status, hstep.output⟩
  have hk := hruns k
  generalize hm : m.execute k = p, hn : n.execute k = q at hk
  cases hk with
  | running hstep => exact .running (hsame hstep)
  | ended hstep _ =>
    exact .ended (hsame hstep) (Embedding.endsAlike_of_ends hhosts hruns ⟨k, hm⟩ ⟨k, hn⟩)

/-- A jump that is taken, an output and a division by zero, with two registers exchanged and the
label renamed, on a machine that has faulted before. -/
theorem execute_renamed_of_division :
    let m : Machine :=
      { program := #[⟨none, .mov .eax 3⟩, ⟨none, .jnz .eax "f"⟩, ⟨none, .out .ebx⟩,
          ⟨some "f", .out .eax⟩, ⟨none, .arithmetic .div .eax .ebx⟩]
        labels := LabelTable.empty.insert "f" 3 }
    let n : Machine :=
      { program := #[⟨none, .mov .ebx 3⟩, ⟨none, .jnz .ebx "g"⟩, ⟨none, .out .eax⟩,
          ⟨none, .out .ebx⟩, ⟨none, .arithmetic .div .ebx .eax⟩]
        labels := LabelTable.empty.insert "g" 3, pc := 7
        state := .halted, haltReason? := some .fault }
    IsRenamed (Equiv.swap .eax .ebx) (fun _ ↦ "g") m n ∧ Set.InjOn (fun _ ↦ "g") m.labelNames ∧
      ∃ t, n.execute 4 = .ended t (some (.fault (.arithmetic .div [(.ebx, 3), (.eax, 0)]))) ∧
        t.registers.get .ebx = 3 ∧ t.pc = 4 ∧ t.status = .halted .fault ∧ t.emitted = #["3"] := by
  intro m n
  have hrenamed : IsRenamed (Equiv.swap .eax .ebx) (fun _ ↦ "g") m n :=
    ⟨by decide +kernel, by decide +kernel⟩
  have hnames : ∀ name ∈ m.labelNames, name = "f" := by
    rintro name (hbound | ⟨source, hmem⟩)
    · rw [LabelTable.contains, LabelTable.get?_insert] at hbound
      split at hbound
      · assumption
      · simp at hbound
    · obtain ⟨-, hname⟩ : source = .eax ∧ name = "f" := by simpa [m, operations] using hmem
      exact hname
  have hinj : Set.InjOn (fun _ ↦ "g") m.labelNames := fun a ha b hb _ ↦
    (hnames a ha).trans (hnames b hb).symm
  have hk := execute_renamed _ _ hrenamed hinj rfl (fun _ ↦ rfl) 4
  obtain ⟨hfailure, heax, hpc, hstatus, hemitted, hoffered⟩ :
      (m.execute 4).casesOn (fun _ ↦ none) (fun _ f? ↦ f?) =
        some (Failure.fault (.arithmetic .div [(.eax, 3), (.ebx, 0)])) ∧
      (m.execute 4).machine.registers.get .eax = 3 ∧ (m.execute 4).machine.pc = 4 ∧
      (m.execute 4).machine.status = .halted .fault ∧ (m.execute 4).machine.emitted = #["3"] ∧
      (m.execute 4).machine.offered = #["3"] := by
    decide +kernel
  refine ⟨hrenamed, hinj, ?_⟩
  generalize m.execute 4 = p, n.execute 4 = q at hk hfailure heax hpc hstatus hemitted hoffered
  cases hk with
  | running => cases hfailure
  | @ended s t f? g? hsame hends =>
    obtain ⟨texts, hs, ht⟩ := hsame.output.emitted
    obtain rfl : texts = #["3"] := by simpa [m] using hs.symm.trans hemitted
    refine ⟨t, ?_, (hsame.registers .eax).trans heax, hsame.pc.trans hpc,
      hsame.status.trans hstatus, ht⟩
    cases hends with
    | program => exact congrArg _ (congrArg _ hfailure)
    | sink hrefused => exact absurd ⟨#["3"], hoffered, hemitted⟩ hrefused

end RegisterMachine
