import RegisterMachine.Proofs.Machine.Correspondence

/-!
# What determines a run

A run depends on the operations of the program and on the map of the labels, and **on nothing that
the machine has been through**: not on its registers, its program counter and its status, nor on
the labels that the instructions carry or on what was emitted before. Of the sink only the answers
count that it will give (`Machine.SinksAgree`), and the trace can only break a run off. So two
machines which agree in this run in step, by the embedding that changes nothing, and end alike
(`execute_determined`).

A run leaves alone what determines it. Hence it can be repeated, whatever its ending was.
-/

namespace RegisterMachine

open Machine

namespace Machine

variable {m n : Machine}

/-- What two runs that began with `m` and `n` have come to: machines that compare equal, with the
same status and the same output since. -/
structure SameOutcome (m n s t : Machine) : Prop where
  alike : s.alike t = true
  status : t.status = s.status
  output : m.SameOutput n s t

/-- Equal operations and equal bindings make for the same program. -/
theorem hosts_of_operations_eq (htrace : n.trace = m.trace)
    (hoperations : n.operations = m.operations) (hlabels : n.labels = m.labels)
    (hsinks : m.SinksAgree n) : (Embedding.after #[]).Hosts m n where
  program := by
    rw [Embedding.operation_after, Array.map_id, hoperations]
    exact Array.empty_append.symm
  labels source target _ := by simp [Embedding.after, hlabels]
  trace := htrace
  sink := hsinks
  quiet hpos := absurd hpos (Nat.lt_irrefl 0)
  nonneg hpos := absurd hpos (Nat.lt_irrefl 0)

/-- **Machines that agree in what determines a run are in step all along.** -/
theorem inStep_execute (hhosts : (Embedding.after #[]).Hosts m n) (k : Nat) :
    (m.execute k).Matches ((Embedding.after #[]).InStep m n) (· = ·) (n.execute k) :=
  ((Embedding.after #[]).inStep_start m n).run_after hhosts k

theorem sameOutcome_of_inStep {s t : Machine} (hhosts : (Embedding.after #[]).Hosts m n)
    (hlabels : n.labels = m.labels) (h : (Embedding.after #[]).InStep m n s t) :
    m.SameOutcome n s t where
  alike := by
    have hprogram : t.operations = s.operations := by
      rw [h.operations_eq hhosts, Embedding.operation_after, Array.map_id]
      exact Array.empty_append
    have hlabels' : t.labels = s.labels := by rw [h.right.labels, h.left.labels, hlabels]
    have hpc : t.pc = s.pc := h.pc.trans (Int.add_zero _)
    simp [Machine.alike, hprogram, hlabels', h.registers_eq, hpc]
  status := h.status
  output := h.output

/-- **A run leaves alone what determines it.** -/
theorem leaves_execute (m : Machine) (k : Nat) : Advances.Leaves m (m.execute k).machine :=
  (inStep_execute (hosts_of_operations_eq rfl rfl rfl fun _ ↦ rfl) k).machine.left

theorem Ends.leaves {f? : Option Failure} (h : m.Ends n f?) : Advances.Leaves m n := by
  obtain ⟨k, hk⟩ := h
  have hleaves := m.leaves_execute k
  rwa [hk] at hleaves

end Machine

/-- **A run is determined by the program and the map of the labels.** Two machines with the same
operations in their programs, the same bindings, the same trace flag and sinks that answer alike are
executed, whatever else they are. After every number of rounds both go on, or both have ended with
the same failure or none; they compare equal, have the same status and have put out the same texts.
Program and labels are never changed; so when a run has ended, and if the sink answers as before, a
second run ends with the same failure or none, in a machine that compares equal, with the same
status, having put out the same texts once more. -/
theorem execute_determined {m n : Machine} (htrace : n.trace = m.trace)
    (hoperations : n.operations = m.operations)
    (hlabels : ∀ label, n.labels.get? label = m.labels.get? label) (hsinks : m.SinksAgree n) :
    (∀ k, (m.execute k).Matches (m.SameOutcome n) (· = ·) (n.execute k)) ∧
    (∀ k, (m.execute k).machine.program = m.program ∧ (m.execute k).machine.labels = m.labels) ∧
    ∀ m' f?, m.Ends m' f? → m.SinksAgree m' →
      ∃ m'', m'.Ends m'' f? ∧ m.SameOutcome m' m' m'' := by
  refine ⟨fun k ↦ ?_, fun k ↦ ?_, fun m' f? hends hagree ↦ ?_⟩
  · have htable := LabelTable.ext_get? hlabels
    have hhosts := hosts_of_operations_eq htrace hoperations htable hsinks
    exact (inStep_execute hhosts k).mono (fun _ _ ↦ sameOutcome_of_inStep hhosts htable)
      fun _ _ ↦ id
  · exact ⟨(m.leaves_execute k).program, (m.leaves_execute k).labels⟩
  · have hleaves := hends.leaves
    have hhosts := hosts_of_operations_eq hleaves.trace
      (by rw [operations, operations, hleaves.program]) hleaves.labels hagree
    obtain ⟨m'', _, hends', hstep, rfl⟩ := hends.of_matches (inStep_execute hhosts)
    exact ⟨m'', hends', sameOutcome_of_inStep hhosts hleaves.labels hstep⟩

/-- A machine with other registers, a fault behind it and an output of its own does what a fresh one
does, and does it again. -/
theorem execute_determined_of_leftovers :
    let m : Machine := { program := #[⟨some "l", .out .eax⟩] }
    let n : Machine :=
      { program := #[⟨none, .out .eax⟩], registers := RegisterFile.zero.set .eax 5, pc := 7
        state := .halted, haltReason? := some .fault, offered := #["9"], emitted := #["9"] }
    m.Ends ((m.start.output "0").halt .normal) none ∧
    ∃ n', n.Ends n' none ∧ n'.status = .halted .normal ∧ n'.emitted = #["9", "0"] ∧
      ∃ n'', n'.Ends n'' none ∧ n'.alike n'' ∧ n''.emitted = #["9", "0", "0"] := by
  intro m n
  have hplain : m.start.IsPlain := ⟨by decide, rfl, fun _ ↦ rfl⟩
  have hat : m.start.StandsAt (.out .eax) := ⟨0, _, rfl, rfl, rfl⟩
  have hround := hplain.round_of_advances m.isShowable_start.registers (.out hat)
  rw [show Text.decimal (m.start.registers.get .eax) = "0" by decide +kernel] at hround
  have hends : m.Ends ((m.start.output "0").halt .normal) none :=
    .of_round ((run_succ_of_running m.start.run_zero).trans hround) (round_of_outside rfl)
  obtain ⟨hmatches, -⟩ :=
    execute_determined (m := m) (n := n) rfl (by decide +kernel) (fun _ ↦ rfl) fun _ ↦ rfl
  obtain ⟨n', _, hends', hn', rfl⟩ := hends.of_matches hmatches
  have hemitted : n'.emitted = #["9", "0"] := by
    obtain ⟨texts, hm, hn⟩ := hn'.output.emitted
    obtain rfl : texts = #["0"] := by simpa [m, output, start, halt] using hm.symm
    exact hn
  obtain ⟨-, -, htwice⟩ := execute_determined (m := n) (n := n) rfl rfl (fun _ ↦ rfl) fun _ ↦ rfl
  have hagree : n.SinksAgree n' := fun texts ↦ by
    rw [hends'.leaves.sink]
    rfl
  obtain ⟨n'', hends'', hn''⟩ := htwice n' none hends' hagree
  refine ⟨hends, n', hends', hn'.status, hemitted, n'', hends'', hn''.alike, ?_⟩
  obtain ⟨texts, hfirst, hsecond⟩ := hn''.output.emitted
  obtain rfl : texts = #["0"] :=
    (Array.append_right_inj #["9"]).1 (hfirst.symm.trans hemitted)
  rw [hsecond, hemitted]
  rfl

end RegisterMachine
