import RegisterMachine.Proofs.Machine.Rules

/-!
# Programs that only jump forward

Nothing bounds the number of steps of a run; a program ends because of what it is. Here is one
class that always does: programs in which every jump with a bound target goes **to a later place,
or to a negative one** (`Machine.JumpsForward`). A later place may lie past the end, and a negative
place is outside the program, so both end the run; that a negative place never counts from the end
of the program is what makes the class so wide.

One round moves the program counter forward or out of the program at its front
(`Machine.JumpsForward.round`). So after `k` rounds it has left the program or stands at `k` or
later (`Machine.JumpsForward.execute`), and no run has more steps than there are instructions
(`execute_forward`). Nothing is asked of trace, sink and registers: a failure is an end too.
-/

namespace RegisterMachine

namespace Machine

variable {m n : Machine}

/-- Every jump with a bound target goes to a later place or to a negative one. -/
def JumpsForward (m : Machine) : Prop :=
  ∀ (k : Nat) (i : Instruction) (source : Register) (target : String) (place : Int),
    m.program[k]? = some i → i.operation = .jnz source target →
      m.labels.get? target = some place → k < place ∨ place < 0

/-- The round after the first `k` ones executes the instruction at this place. -/
def Executes (m : Machine) (k : Nat) (place : Int) : Prop :=
  ∃ s, m.execute k = .running s ∧ s.isInside = true ∧ s.pc = place

/-- A program without jumps jumps forward. -/
theorem jumpsForward_of_ne_jnz
    (h : ∀ i ∈ m.program, ∀ source target, i.operation ≠ .jnz source target) : m.JumpsForward :=
  fun _ i source target _ hk hi _ ↦ absurd hi (h i (Array.mem_of_getElem? hk) source target)

/-! ### One round -/

/-- A round that goes on has executed an instruction, and goes on at the next place or at the one
to which the target of this instruction is bound. -/
theorem exists_standsAt_of_round (h : m.round = .running n) :
    ∃ operation, m.StandsAt operation ∧ m.Keeps n ∧
      (n.pc = m.pc + 1 ∨
        ∃ source target, operation = .jnz source target ∧ m.labels.get? target = some n.pc) := by
  cases hinside : m.isInside with
  | false => exact nomatch (round_of_outside hinside).symm.trans h
  | true =>
    obtain ⟨i, -, hat⟩ := exists_standsAt hinside
    refine ⟨i.operation, hat, ?_⟩
    have hkeeps := i.operation.keeps_apply m
    rcases happly : i.operation.apply m with ⟨s, f | transfer⟩
    · exact nomatch (round_of_apply_error hat happly).symm.trans h
    · rw [happly] at hkeeps
      rw [round_of_apply hat happly] at h
      have htraced := (s.follow transfer).keeps_traced
      rcases htrace : (s.follow transfer).traced with ⟨t, - | f⟩
      · rw [htrace] at h htraced
        obtain rfl := Progress.running.inj h
        refine ⟨(hkeeps.1.trans (s.keeps_follow transfer)).trans htraced.1, ?_⟩
        rw [htraced.2]
        cases transfer with
        | advance => exact .inl (congrArg (· + 1) hkeeps.2)
        | jump place => exact .inr (i.operation.exists_jnz_of_jump (by rw [happly]; rfl))
      · rw [htrace] at h
        exact nomatch h

theorem isInside_of_round (h : m.round = .running n) : m.isInside = true := by
  obtain ⟨_, hat, -⟩ := exists_standsAt_of_round h
  exact isInside_of_standsAt hat

namespace JumpsForward

theorem keeps (hforward : m.JumpsForward) (h : m.Keeps n) : n.JumpsForward := by
  rw [JumpsForward, h.program, h.labels]
  exact hforward

/-- **A round moves forward, or out of the program at its front.** -/
theorem round (hforward : m.JumpsForward) (h : m.round = .running n) :
    n.JumpsForward ∧ n.program = m.program ∧ (m.pc < n.pc ∨ n.pc < 0) := by
  obtain ⟨operation, ⟨k, i, hpc, hk, hi⟩, hkeeps, hnext⟩ := exists_standsAt_of_round h
  refine ⟨hforward.keeps hkeeps, hkeeps.program, ?_⟩
  rcases hnext with hnext | ⟨source, target, rfl, hplace⟩
  · omega
  · have := hforward k i source target n.pc hk hi hplace
    omega

/-! ### Runs -/

/-- **After `k` rounds the program counter has left the program at its front, or stands at `k` or
later.** -/
theorem execute (hforward : m.JumpsForward) {k : Nat} {s : Machine}
    (h : m.execute k = .running s) :
    s.JumpsForward ∧ s.program = m.program ∧ (s.pc < 0 ∨ k ≤ s.pc) := by
  induction k generalizing s with
  | zero =>
    obtain rfl := Progress.running.inj h
    exact ⟨hforward, rfl, .inr (Int.le_refl 0)⟩
  | succ k ih =>
    obtain ⟨t, hrun, hround⟩ := run_succ_eq_running_iff.1 h
    obtain ⟨hforward', hprogram, hpc⟩ := ih hrun
    obtain ⟨hforward'', hprogram', hpc'⟩ := hforward'.round hround
    refine ⟨hforward'', hprogram'.trans hprogram, ?_⟩
    have hinside := isInside_iff.1 (isInside_of_round hround)
    omega

theorem lt_size_of_executes (hforward : m.JumpsForward) {k : Nat} {place : Int}
    (h : m.Executes k place) : k < m.program.size := by
  obtain ⟨s, hrun, hinside, -⟩ := h
  obtain ⟨-, hprogram, hpc⟩ := hforward.execute hrun
  rw [isInside_iff, hprogram] at hinside
  omega

/-- **Later rounds execute later instructions.** -/
theorem lt_of_executes (hforward : m.JumpsForward) {j k : Nat} {p q : Int} (hlt : j < k)
    (hj : m.Executes j p) (hk : m.Executes k q) : p < q := by
  obtain ⟨t, hrun', hinside', rfl⟩ := hk
  induction k generalizing t with
  | zero => exact absurd hlt (Nat.not_lt_zero j)
  | succ k ih =>
    obtain ⟨u, hrun, hround⟩ := run_succ_eq_running_iff.1 hrun'
    have hinside := isInside_of_round hround
    -- the round before executes an earlier instruction, and is round `j` or comes after it
    have hstep : u.pc < t.pc := by
      have hpc := ((hforward.execute hrun).1.round hround).2.2
      have hlow := (isInside_iff.1 hinside').1
      omega
    rcases Nat.lt_or_eq_of_le (Nat.le_of_lt_succ hlt) with hbefore | rfl
    · exact Int.lt_trans (ih hbefore u hrun hinside) hstep
    · obtain ⟨s, hrun₀, -, rfl⟩ := hj
      obtain rfl := Progress.running.inj (hrun₀.symm.trans hrun)
      exact hstep

/-- **A run has ended in the round after as many as there are instructions.** -/
theorem exists_execute_ended (hforward : m.JumpsForward) :
    ∃ n f?, m.execute (m.program.size + 1) = .ended n f? := by
  cases hrun : m.execute m.program.size with
  | running s =>
    obtain ⟨-, hprogram, hpc⟩ := hforward.execute hrun
    have houtside : s.isInside = false := by
      rw [Bool.eq_false_iff, ne_eq, isInside_iff, hprogram]
      omega
    exact ⟨_, _, (run_succ_of_running hrun).trans (round_of_outside houtside)⟩
  | ended n f? => exact ⟨n, f?, run_eq_ended_of_le (Nat.le_succ _) hrun⟩

end JumpsForward

end Machine

open Machine

/-- **Programs that jump forward end.** In a machine with any program and any labels, let every
jump with a bound target go to a later place or to a negative one, as is the case if there are no
jumps at all. Then the program, executed from its start, comes to an end or is cut short by a
failure; no instruction is executed after as many rounds as there are instructions, and every later
round executes an instruction at a later place, so none is executed twice. -/
theorem execute_forward (m : Machine) :
    ((∀ i ∈ m.program, ∀ source target, i.operation ≠ .jnz source target) → m.JumpsForward) ∧
    (m.JumpsForward →
      (∃ n f?, m.execute (m.program.size + 1) = .ended n f?) ∧
      (∀ k place, m.Executes k place → k < m.program.size) ∧
      ∀ j k p q, j < k → m.Executes j p → m.Executes k q → p < q) := by
  refine ⟨jumpsForward_of_ne_jnz, fun hforward ↦ ⟨hforward.exists_execute_ended, ?_, ?_⟩⟩
  · exact fun k place ↦ hforward.lt_size_of_executes
  · exact fun j k p q ↦ hforward.lt_of_executes

/-- Jumps over an instruction, past the end, and to a negative place, of which the first and the
last are taken: the run ends outside the program. -/
theorem execute_forward_of_negative_place :
    let labels := ((LabelTable.empty.insert "skip" 3).insert "far" 9).insert "out" (-2)
    let m : Machine :=
      { program := #[⟨none, .mov .eax 1⟩, ⟨none, .jnz .eax "skip"⟩, ⟨none, .jnz .eax "far"⟩,
          ⟨none, .jnz .eax "out"⟩], labels }
    m.JumpsForward ∧ ∃ n f?, m.execute 5 = .ended n f? ∧ n.pc = -2 ∧
      ∀ k place, m.Executes k place → k < 4 := by
  intro labels m
  have hforward : m.JumpsForward := by
    intro k i source target place hk hi hplace
    have hlabels : ∀ name, m.labels.get? name = if name = "out" then some (-2) else
        if name = "far" then some 9 else if name = "skip" then some 3 else none := by
      intro name
      simp only [m, labels, LabelTable.get?_insert, LabelTable.get?_empty]
    rw [hlabels] at hplace
    match k, hk with
    | 0, hk => cases hk; cases hi
    | 1, hk => cases hk; cases hi; simp at hplace; omega
    | 2, hk => cases hk; cases hi; simp at hplace; omega
    | 3, hk => cases hk; cases hi; simp at hplace; omega
  obtain ⟨⟨n, f?, hended⟩, hsteps, -⟩ := (execute_forward m).2 hforward
  have hpc : (m.execute 5).machine.pc = -2 := by decide +kernel
  rw [show m.execute 5 = .ended n f? from hended] at hpc
  exact ⟨hforward, n, f?, hended, hpc, hsteps⟩

end RegisterMachine
