import RegisterMachine.Proofs.Assembly.Composition
import RegisterMachine.Proofs.Assembly.RoundTrip
import RegisterMachine.Proofs.Machine.Correspondence

/-!
# Programs can be moved

Nothing in a source depends on the place where its program comes to stand: lines may be put before
it. Where these only move zeros into registers, the longer program goes through them to no effect,
and then **does what the shorter one does**, with a program counter that is further on by their
number (`execute_relocated`).

Three facts meet in this. The lines before give their moves, and bind no label
(`exists_assemble_of_movesZero`); so the two sources can be assembled apart, and the program of the
one stands in that of the other (`hosts_of_joins`). The moves leave the machine at its start but
for the program counter (`execute_of_movesZero`). And from there on both machines run in step, as
any machines with such programs do.
-/

namespace RegisterMachine

open Source Machine

/-- The line moves zero into a register, and carries no label. -/
def MovesZero (line : String) : Prop := ∃ r, instructionOf? line = some ⟨none, .mov r 0⟩

/-! ### The lines before -/

theorem exists_spells_of_movesZero {lead : List String} (h : ∀ line ∈ lead, MovesZero line) :
    ∃ registers : List Register, List.Forall₂ (fun i line ↦ Spells i (Text.strip line.toList))
      (registers.map fun r ↦ ⟨none, .mov r 0⟩) lead := by
  induction lead with
  | nil => exact ⟨[], .nil⟩
  | cons line rest ih =>
    obtain ⟨⟨r, hline⟩, hrest⟩ := List.forall_mem_cons.1 h
    obtain ⟨registers, hspells⟩ := ih hrest
    exact ⟨r :: registers, .cons (spells_of_readLine (instructionOf?_eq_some_iff.1 hline)).1 hspells⟩

/-- **Lines that move zeros assemble to these moves** and bind no label. -/
theorem exists_assemble_of_movesZero {lead : List String} (h : ∀ line ∈ lead, MovesZero line) :
    ∃ a, assemble ⟨lead, none⟩ = (a, none) ∧ a.program.size = lead.length ∧
      (∀ i ∈ a.program, ∃ r, i = ⟨none, .mov r 0⟩) ∧
      ∀ label, a.labels.get? label = none := by
  obtain ⟨registers, hspells⟩ := exists_spells_of_movesZero h
  have hunlabelled : (registers.map fun r ↦ (⟨none, .mov r 0⟩ : Instruction)).filterMap (·.label?) =
      [] := by simp [List.filterMap_map]
  obtain ⟨a, ha, hprogram, -⟩ := assemble_of_spells hspells (hunlabelled ▸ List.nodup_nil)
  have hmoves : ∀ i ∈ a.program, ∃ r, i = (⟨none, .mov r 0⟩ : Instruction) := by
    intro i hi
    rw [← Array.mem_toList_iff, hprogram] at hi
    obtain ⟨r, -, rfl⟩ := List.mem_map.1 hi
    exact ⟨r, rfl⟩
  refine ⟨a, ha, ?_, hmoves, fun label ↦ ?_⟩
  · rw [← Array.length_toList, hprogram, hspells.length_eq]
  · have hmatch := labelsMatch_assemble ⟨lead, none⟩
    rw [ha] at hmatch
    rw [Option.eq_none_iff_forall_ne_some]
    intro place hplace
    obtain ⟨k, i, -, hk, hi⟩ := (hmatch label place).1 hplace
    obtain ⟨r, rfl⟩ := hmoves i (Array.mem_of_getElem? hk)
    exact nomatch hi

/-! ### Going through moves of zero -/

theorem RegisterFile.set_zero (r : Register) : zero.set r 0 = zero :=
  ext_get fun s ↦ by simp [get_set]

/-- **Moves of zero leave a machine at its start**, but for the program counter. -/
theorem execute_of_movesZero {m : Machine} (htrace : m.trace = false) {count : Nat}
    (h : ∀ k < count, ∃ r, m.program[k]? = some ⟨none, .mov r 0⟩) :
    ∀ j ≤ count, m.execute j = .running (m.start.goto j) := by
  intro j hj
  induction j with
  | zero => rfl
  | succ j ih =>
    obtain ⟨r, hr⟩ := h j hj
    have hat : (m.start.goto j).StandsAt (.mov r 0) := ⟨j, _, rfl, hr, rfl⟩
    have hround := round_of_apply_ok hat rfl htrace
    rw [execute, run_succ_of_running (ih (Nat.le_of_lt hj)), hround]
    simp only [goto, start, follow, RegisterFile.set_zero, Int.natCast_add_one]

theorem Machine.execute_add_of_running {m s : Machine} {k : Nat} (h : m.execute k = .running s)
    (j : Nat) : m.execute (k + j) = s.run j := by
  rw [execute, run_add, ← execute, h]

/-! ### The program among others -/

/-- A program that was assembled apart stands in the joined one, after the operations of the
other. -/
theorem hosts_of_joins {a b c : Assembly} {count : Nat} (h : a.Joins count b c)
    (hunbound : ∀ label, a.labels.get? label = none) (hmatch : LabelsMatch b.program b.labels)
    {m n : Machine} (hm : m.trace = false) (hn : n.trace = false) (hsinks : m.SinksAgree n) :
    (Embedding.after (a.program.map (·.operation))).Hosts (m.install b) (n.install c) where
  program := by
    rw [Embedding.operation_after, Array.map_id]
    simp [operations, install, Embedding.after, h.program]
  labels _ target _ := by
    simp [install, Embedding.after, h.labels, hunbound]
  trace := hn.trans hm.symm
  sink := hsinks
  quiet _ := hm
  nonneg _ label place hplace := by
    obtain ⟨k, -, rfl, -⟩ := (hmatch label place).1 hplace
    exact Int.natCast_nonneg k

/-- What two runs that began with `m` and `n` have come to: the same registers, status and output,
with a program counter that is further on in the second. -/
structure Machine.SameButPlace (m n : Machine) (distance : Nat) (s t : Machine) : Prop where
  registers : t.registers = s.registers
  pc : t.pc = s.pc + distance
  status : t.status = s.status
  output : m.SameOutput n s t

/-- **Programs can be moved.** Lines are assembled to their end and loaded, and they are also loaded
behind other lines, each of which moves zero into a register. Without a trace, and with sinks that
answer alike, the second program goes through the lines before with all registers at zero, and
offers nothing to the sink. From then on the two runs are in step: after every number of rounds
both go on, or both have ended with the same failure or none; registers, status and output are the
same, and the program counters differ by the number of the lines before. -/
theorem execute_relocated {lead lines : List String} {b : Assembly}
    (hlead : ∀ line ∈ lead, MovesZero line) (hlines : assemble ⟨lines, none⟩ = (b, none))
    {m n : Machine} (hm : m.trace = false) (hn : n.trace = false) (hsinks : m.SinksAgree n) :
    ∃ loaded moved diagnostics diagnostics',
      m.load ⟨lines, none⟩ = (loaded, .ok diagnostics) ∧
      n.load ⟨lead ++ lines, none⟩ = (moved, .ok diagnostics') ∧
      (∀ j ≤ lead.length, ∃ s, moved.execute j = .running s ∧ s.registers = .zero ∧ s.pc = j ∧
        s.offered = n.offered ∧ s.emitted = n.emitted) ∧
      ∀ j, (loaded.execute j).Matches (m.SameButPlace n lead.length) (· = ·)
        (moved.execute (lead.length + j)) := by
  obtain ⟨a, ha, hsize, hmoves, hunbound⟩ := exists_assemble_of_movesZero hlead
  obtain ⟨c, hc, hjoins⟩ := exists_joins_of_assemble ha hlines fun label hlabel ↦ by
    simp [LabelTable.contains, hunbound] at hlabel
  have hmatch : LabelsMatch b.program b.labels := by
    have hmatch := labelsMatch_assemble ⟨lines, none⟩
    rwa [hlines] at hmatch
  have hhosts := hosts_of_joins hjoins hunbound hmatch hm hn hsinks
  have hbefore : ∀ j ≤ lead.length,
      (n.install c).execute j = .running ((n.install c).start.goto j) := by
    refine execute_of_movesZero (m := n.install c) hn fun k hk ↦ ?_
    have hlt : k < a.program.size := hsize ▸ hk
    obtain ⟨r, hr⟩ := hmoves a.program[k] (Array.getElem_mem hlt)
    refine ⟨r, ?_⟩
    rw [install, hjoins.program, Array.getElem?_append_left hlt, Array.getElem?_eq_getElem hlt, hr]
  refine ⟨m.install b, n.install c, b.diagnostics, c.diagnostics, ?_, ?_, fun j hj ↦ ?_,
    fun j ↦ ?_⟩
  · rw [load, hlines]
  · rw [load, hc]
  · exact ⟨_, hbefore j hj, rfl, rfl, rfl, rfl⟩
  · have hplace : (Embedding.after (a.program.map (·.operation))).lead.size = lead.length := by
      simp [Embedding.after, hsize]
    have hmatches := (Embedding.inStep_start _ (m.install b) (n.install c)).run_after hhosts j
    rw [hplace, ← execute_add_of_running (hbefore _ le_rfl)] at hmatches
    refine hmatches.mono (fun s t h ↦ ?_) fun _ _ ↦ id
    exact ⟨h.registers_eq, hplace ▸ h.pc, h.status, h.output.offered, h.output.emitted⟩

/-- A taken jump behind one line: the label has moved on, and so has the end of the program. -/
theorem execute_relocated_of_jump :
    ∃ moved diagnostics,
      ({} : Machine).load
        ⟨["mov ECX 0"] ++ ["mov EAX 1", "jnz EAX f", "out EAX", "f: out EBX"], none⟩ =
          (moved, .ok diagnostics) ∧
      (moved.execute 5).machine.registers = RegisterFile.zero.set .eax 1 ∧
      (moved.execute 5).machine.pc = 5 ∧
      (moved.execute 5).machine.status = .halted .normal ∧
      (moved.execute 5).machine.emitted = #["0"] := by
  have hlead : ∀ line ∈ ["mov ECX 0"], MovesZero line :=
    List.forall_mem_singleton.2 ⟨.ecx, by decide +kernel⟩
  obtain ⟨b, hb⟩ :
      ∃ b, assemble ⟨["mov EAX 1", "jnz EAX f", "out EAX", "f: out EBX"], none⟩ = (b, none) :=
    ⟨_, Prod.ext rfl (by decide +kernel)⟩
  obtain ⟨loaded, moved, _, diagnostics, hloaded, hmoved, -, hmatches⟩ :=
    execute_relocated (m := {}) (n := {}) hlead hb rfl rfl fun _ ↦ rfl
  obtain ⟨hregisters, hpc, hstatus, hemitted⟩ :
      (loaded.execute 4).machine.registers = RegisterFile.zero.set .eax 1 ∧
        (loaded.execute 4).machine.pc = 4 ∧
        (loaded.execute 4).machine.status = .halted .normal ∧
        (loaded.execute 4).machine.emitted = #["0"] := by
    rw [show loaded = _ from (congrArg Prod.fst hloaded).symm]
    decide +kernel
  have hsame := (hmatches 4).machine
  obtain ⟨texts, hfirst, hsecond⟩ := hsame.output.emitted
  refine ⟨moved, diagnostics, hmoved, hsame.registers.trans hregisters, hsame.pc.trans ?_,
    hsame.status.trans hstatus, hsecond.trans (hfirst.symm.trans hemitted)⟩
  rw [hpc]
  rfl

end RegisterMachine
