import Mathlib.Data.Nat.Factorial.Basic
import RegisterMachine.Proofs.Assembly.RoundTrip
import RegisterMachine.Proofs.Machine.Endings

/-!
# A program for factorials

Seven lines that multiply a number down to one, as they stand in a file, with the number to start
from as a parameter (`factorialLines`). From the text to the output: the lines assemble to the
program that one reads in them, with its one label at the start of the loop; started from one or
more the program comes to its output with **the factorial of this number**, however large, and
started from zero or less it **never ends**, since the number is below zero when it is looked at
(`factorial_computes`).

The program works on three registers only, so a state of its run is a `Stage`: a place and three
numbers. What one round does to a stage is one rule for each instruction before the last
(`Stage.Next`), which a machine with this program follows (`ComputesFactorial.round_of_next`). Both
halves of the result are about stages: the loop from a positive number by induction on it, and the
loop from any other number by an invariant (`Stage.Circles`).
-/

namespace RegisterMachine

open Source Text Machine

/-! ### The source -/

/-- The lines of the program, which start from `n`. -/
def factorialLines (n : Int) : List String :=
  ["    mov EAX " ++ decimal n,
    "    mov EBX 1",
    "    mov ECX 1",
    "f3: mul EBX EAX",
    "    sub EAX ECX",
    "    jnz EAX f3",
    "    out EBX"]

/-- The instructions on these lines. -/
def factorialProgram (n : Int) : Array Instruction :=
  #[⟨none, .mov .eax n⟩,
    ⟨none, .mov .ebx 1⟩,
    ⟨none, .mov .ecx 1⟩,
    ⟨some "f3", .arithmetic .mul .ebx .eax⟩,
    ⟨none, .arithmetic .sub .eax .ecx⟩,
    ⟨none, .jnz .eax "f3"⟩,
    ⟨none, .out .ebx⟩]

/-- The one label stands for the start of the loop. -/
def factorialLabels : LabelTable := LabelTable.empty.insert "f3" 3

theorem write_factorialLabels : factorialLabels.write = .ok "[f3 -> 3]" := by
  have hthree : writeDecimal 3 = .ok "3" :=
    writeDecimal_eq_ok_iff.2 ⟨natAbs_lt_digitBound (by decide) (by decide), by decide +kernel⟩
  have hentries : factorialLabels.entries = [("f3", 3)] := rfl
  simp only [LabelTable.write, hentries, List.mapM_cons, List.mapM_nil, hthree]
  rfl

theorem labelsMatch_factorial (n : Int) : LabelsMatch (factorialProgram n) factorialLabels := by
  intro label place
  rw [factorialLabels, LabelTable.get?_insert, LabelTable.get?_empty]
  constructor
  · intro h
    split at h
    next hlabel => exact ⟨3, _, (Option.some.inj h).symm, rfl, hlabel ▸ rfl⟩
    next => exact nomatch h
  · rintro ⟨k, i, rfl, hk, hi⟩
    match k, hk with
    | 0, rfl | 1, rfl | 2, rfl | 4, rfl | 5, rfl | 6, rfl => exact nomatch hi
    | 3, rfl => rw [if_pos (Option.some.inj hi).symm]; rfl

/-- A number of 32 bits can be written into the first line. -/
theorem spells_first_line {n : Int} (hmin : literalMin ≤ n) (hmax : n ≤ literalMax) :
    Spells ⟨none, .mov .eax n⟩ (strip ("    mov EAX " ++ decimal n).toList) := by
  obtain ⟨mark, digits, hdecimal, hliteral⟩ := exists_isLiteral_decimal hmin hmax
  have hspells : Spells ⟨none, .mov .eax n⟩ _ :=
    .unlabelled (.mov isSpacing_space isSpacing_space.isGap hliteral (by simp))
  have hline : ("    mov EAX " ++ decimal n).toList = "    ".toList ++ ("mov".toList ++ ([' '] ++
      (Register.eax.name.toList ++ ([' '] ++ (mark ++ digits))))) := by
    rw [String.toList_append, hdecimal]
    rfl
  rw [hline, hspells.isTrimmed.strip_append (by simp [isBlank])]
  exact hspells

/-- **The lines assemble to the program**, without a diagnostic. -/
theorem assemble_factorialLines {n : Int} (hmin : literalMin ≤ n) (hmax : n ≤ literalMax) :
    ∃ a, assemble ⟨factorialLines n, none⟩ = (a, none) ∧ a.program = factorialProgram n ∧
      a.labels = factorialLabels ∧ a.diagnostics = #[] := by
  have hspells : ∀ line i, readLine .empty line = .ok (.instruction i) →
      Spells i (strip line.toList) := fun _ _ hread ↦ (spells_of_readLine hread).1
  have hlines : List.Forall₂ (fun i line ↦ Spells i (strip line.toList))
      (factorialProgram n).toList (factorialLines n) := by
    refine .cons (spells_first_line hmin hmax) (.cons ?_ (.cons ?_ (.cons ?_ (.cons ?_
      (.cons ?_ (.cons ?_ .nil))))))
    all_goals exact hspells _ _ (by decide +kernel)
  have hnodup : ((factorialProgram n).toList.filterMap (·.label?)).Nodup := by
    simp [factorialProgram]
  obtain ⟨a, ha, hprogram, hdiagnostics⟩ := assemble_of_spells hlines hnodup
  have hsame : a.program = factorialProgram n := Array.toList_inj.1 hprogram
  refine ⟨a, ha, hsame, ?_, hdiagnostics⟩
  have hmatch := labelsMatch_assemble ⟨factorialLines n, none⟩
  rw [ha, hsame] at hmatch
  exact hmatch.eq (labelsMatch_factorial n)

/-! ### Stages -/

/-- Where a run of the program stands: the place of the next instruction, and what `EAX`, `EBX` and
`ECX` hold. -/
structure Stage where
  place : Nat
  eax : Int
  ebx : Int
  ecx : Int

namespace Stage

/-- All other registers hold zero. -/
def registers (s : Stage) : RegisterFile :=
  ((RegisterFile.zero.set .eax s.eax).set .ebx s.ebx).set .ecx s.ecx

theorem get_registers (s : Stage) (r : Register) :
    s.registers.get r =
      match r with
      | .eax => s.eax
      | .ebx => s.ebx
      | .ecx => s.ecx
      | _ => 0 := by
  cases r <;> simp [registers, RegisterFile.get_set]

/-- What the instructions before the last one do. -/
inductive Next (n : Int) : Stage → Stage → Prop
  | setEax (a b c : Int) : Next n ⟨0, a, b, c⟩ ⟨1, n, b, c⟩
  | setEbx (a b c : Int) : Next n ⟨1, a, b, c⟩ ⟨2, a, 1, c⟩
  | setEcx (a b c : Int) : Next n ⟨2, a, b, c⟩ ⟨3, a, b, 1⟩
  | multiply (a b c : Int) : Next n ⟨3, a, b, c⟩ ⟨4, a, b * a, c⟩
  | subtract (a b c : Int) : Next n ⟨4, a, b, c⟩ ⟨5, a - c, b, c⟩
  | again {a : Int} (b c : Int) (h : a ≠ 0) : Next n ⟨5, a, b, c⟩ ⟨3, a, b, c⟩
  | leave (b c : Int) : Next n ⟨5, 0, b, c⟩ ⟨6, 0, b, c⟩

/-- The stages of a run from zero or less: in the loop, `EAX` is not positive, and below zero when
it is looked at. -/
inductive Circles (n : Int) : Stage → Prop
  | setEax : Circles n ⟨0, 0, 0, 0⟩
  | setEbx : Circles n ⟨1, n, 0, 0⟩
  | setEcx : Circles n ⟨2, n, 1, 0⟩
  | multiply {a : Int} (b : Int) (h : a ≤ 0) : Circles n ⟨3, a, b, 1⟩
  | subtract {a : Int} (b : Int) (h : a ≤ 0) : Circles n ⟨4, a, b, 1⟩
  | again {a : Int} (b : Int) (h : a < 0) : Circles n ⟨5, a, b, 1⟩

namespace Circles

variable {n : Int} {s : Stage}

/-- **From such a stage one comes to another.** -/
theorem exists_next (h : s.Circles n) (hn : n ≤ 0) : ∃ t, Next n s t ∧ t.Circles n := by
  cases h with
  | setEax => exact ⟨_, .setEax 0 0 0, .setEbx⟩
  | setEbx => exact ⟨_, .setEbx n 0 0, .setEcx⟩
  | setEcx => exact ⟨_, .setEcx n 1 0, .multiply 1 hn⟩
  | @multiply a b h => exact ⟨_, .multiply a b 1, .subtract (b * a) h⟩
  | @subtract a b h => exact ⟨_, .subtract a b 1, .again b (by omega)⟩
  | @again a b h => exact ⟨_, .again b 1 (by omega), .multiply b (by omega)⟩

/-- The output is not among them. -/
theorem place_le (h : s.Circles n) : s.place ≤ 5 := by
  cases h <;> simp

end Circles

end Stage

/-- The machine at a stage of a run. -/
def Machine.atStage (m : Machine) (s : Stage) : Machine :=
  { m.start with pc := s.place, registers := s.registers }

/-- A run starts with all registers at zero. -/
theorem Machine.execute_zero_eq_atStage (m : Machine) :
    m.execute 0 = .running (m.atStage ⟨0, 0, 0, 0⟩) := by
  have hzero : (⟨0, 0, 0, 0⟩ : Stage).registers = .zero :=
    RegisterFile.ext_get fun r ↦ by cases r <;> simp [Stage.get_registers]
  rw [execute, run_zero, atStage, hzero]
  rfl

/-- The machine holds the program, and is not traced. -/
structure ComputesFactorial (n : Int) (m : Machine) : Prop where
  program : m.program = factorialProgram n
  labels : m.labels = factorialLabels
  trace : m.trace = false

namespace ComputesFactorial

variable {n : Int} {m : Machine}

theorem standsAt (h : ComputesFactorial n m) {s : Stage} {operation : Operation}
    (hat : ((factorialProgram n)[s.place]?).map (·.operation) = some operation) :
    (m.atStage s).StandsAt operation := by
  obtain ⟨i, hi, rfl⟩ := Option.map_eq_some_iff.1 hat
  rw [← h.program] at hi
  exact ⟨s.place, i, rfl, hi, rfl⟩

/-- An instruction that takes a value into a register leads to the next stage, if this has the
registers for it. -/
theorem round_of_assign (h : ComputesFactorial n m) {s t : Stage} {operation : Operation}
    {r : Register} {value : Int} (hat : (m.atStage s).StandsAt operation)
    (hne : ∀ source, operation ≠ .out source)
    (hadvances : (m.atStage s).Advances ((m.atStage s).assign r value))
    (hplace : t.place = s.place + 1)
    (hregisters : ∀ r', t.registers.get r' = if r = r' then value else s.registers.get r') :
    (m.atStage s).round = .running (m.atStage t) := by
  have hset : s.registers.set r value = t.registers :=
    RegisterFile.ext_get fun r' ↦ by rw [RegisterFile.get_set, hregisters]
  rw [hadvances.round_of_ne_out hat hne h.trace]
  simp only [assign, atStage, hset, hplace, Int.natCast_add_one]

/-- **A round does what the rules for stages say.** -/
theorem round_of_next (h : ComputesFactorial n m) {s t : Stage} (hnext : Stage.Next n s t) :
    (m.atStage s).round = .running (m.atStage t) := by
  cases hnext with
  | setEax a b c =>
    have hat : (m.atStage ⟨0, a, b, c⟩).StandsAt (.mov .eax n) := h.standsAt rfl
    refine h.round_of_assign hat (by simp) (.mov hat) rfl fun r ↦ ?_
    cases r <;> simp [Stage.get_registers]
  | setEbx a b c =>
    have hat : (m.atStage ⟨1, a, b, c⟩).StandsAt (.mov .ebx 1) := h.standsAt rfl
    refine h.round_of_assign hat (by simp) (.mov hat) rfl fun r ↦ ?_
    cases r <;> simp [Stage.get_registers]
  | setEcx a b c =>
    have hat : (m.atStage ⟨2, a, b, c⟩).StandsAt (.mov .ecx 1) := h.standsAt rfl
    refine h.round_of_assign hat (by simp) (.mov hat) rfl fun r ↦ ?_
    cases r <;> simp [Stage.get_registers]
  | multiply a b c =>
    have hat : (m.atStage ⟨3, a, b, c⟩).StandsAt (.arithmetic .mul .ebx .eax) := h.standsAt rfl
    refine h.round_of_assign hat (by simp) (.mul hat) rfl fun r ↦ ?_
    cases r <;> simp [Stage.get_registers, atStage]
  | subtract a b c =>
    have hat : (m.atStage ⟨4, a, b, c⟩).StandsAt (.arithmetic .sub .eax .ecx) := h.standsAt rfl
    refine h.round_of_assign hat (by simp) (.sub hat) rfl fun r ↦ ?_
    cases r <;> simp [Stage.get_registers, atStage]
  | @again a b c hne =>
    have hat : (m.atStage ⟨5, a, b, c⟩).StandsAt (.jnz .eax "f3") := h.standsAt rfl
    have hbound : m.labels.get? "f3" = some 3 := by rw [h.labels]; rfl
    have hjump : (m.atStage ⟨5, a, b, c⟩).Advances (m.atStage ⟨3, a, b, c⟩) :=
      .jump hat hne hbound
    exact hjump.round_of_ne_out hat (by simp) h.trace
  | leave b c =>
    have hat : (m.atStage ⟨5, 0, b, c⟩).StandsAt (.jnz .eax "f3") := h.standsAt rfl
    have hpass : (m.atStage ⟨5, 0, b, c⟩).Advances (m.atStage ⟨6, 0, b, c⟩) := .pass hat rfl
    exact hpass.round_of_ne_out hat (by simp) h.trace

/-- One more round of a run that has come to a stage. -/
theorem run_succ_of_next (h : ComputesFactorial n m) {o : Machine} {k : Nat} {s t : Stage}
    (hrun : o.run k = .running (m.atStage s)) (hnext : Stage.Next n s t) :
    o.run (k + 1) = .running (m.atStage t) :=
  (run_succ_of_running hrun).trans (h.round_of_next hnext)

/-! ### From a positive number -/

/-- **The loop multiplies down to one.** -/
theorem run_loop (h : ComputesFactorial n m) (k : Nat) (b : Int) :
    (m.atStage ⟨3, k + 1, b, 1⟩).run (3 * (k + 1)) =
      .running (m.atStage ⟨6, 0, b * (k + 1).factorial, 1⟩) := by
  have hbody : ∀ a b : Int, (m.atStage ⟨3, a, b, 1⟩).run 2 =
      .running (m.atStage ⟨5, a - 1, b * a, 1⟩) := fun a b ↦
    h.run_succ_of_next (h.run_succ_of_next (run_zero _) (.multiply a b 1)) (.subtract a (b * a) 1)
  induction k generalizing b with
  | zero =>
    have hleave := h.run_succ_of_next (hbody 1 b) (.leave (b * 1) 1)
    simpa using hleave
  | succ k ih =>
    have hne : ((k + 1 : Nat) : Int) ≠ 0 := by omega
    have hfirst : (m.atStage ⟨3, (k + 1 : Nat) + 1, b, 1⟩).run 3 =
        .running (m.atStage ⟨3, k + 1, b * (k + 2 : Nat), 1⟩) := by
      have hback := hbody ((k + 1 : Nat) + 1) b
      rw [Int.add_sub_cancel] at hback
      exact h.run_succ_of_next hback (.again _ 1 hne)
    rw [show 3 * (k + 1 + 1) = 3 + 3 * (k + 1) by omega, run_add, hfirst]
    dsimp only
    rw [ih, Nat.factorial_succ (k + 1), Int.natCast_mul, Int.mul_assoc]

/-- The loop is reached with the number to start from. -/
theorem execute_three (h : ComputesFactorial n m) :
    m.execute 3 = .running (m.atStage ⟨3, n, 1, 1⟩) := by
  exact h.run_succ_of_next (h.run_succ_of_next (h.run_succ_of_next m.execute_zero_eq_atStage
    (.setEax 0 0 0)) (.setEbx n 0 0)) (.setEcx n 1 0)

/-- **The program comes to its output with the factorial.** -/
theorem exists_execute_output (h : ComputesFactorial n m) (hn : 1 ≤ n) :
    ∃ k, m.execute k = .running (m.atStage ⟨6, 0, n.toNat.factorial, 1⟩) := by
  obtain ⟨k, rfl⟩ : ∃ k : Nat, n = k + 1 := ⟨(n - 1).toNat, by omega⟩
  refine ⟨3 + 3 * (k + 1), ?_⟩
  rw [Machine.execute, run_add, ← Machine.execute, h.execute_three]
  dsimp only
  rw [h.run_loop k 1, Int.one_mul]
  rfl

/-- The output ends the program, if the number can be written and the sink takes it. -/
theorem ends_of_output (h : ComputesFactorial n m) {k : Nat} {a b c : Int}
    (hrun : m.execute k = .running (m.atStage ⟨6, a, b, c⟩)) (hshort : b.natAbs < digitBound)
    (hsink : ∀ offered, m.sink offered = none) :
    m.Ends (((m.atStage ⟨6, a, b, c⟩).output (decimal b)).halt .normal) none := by
  have hat : (m.atStage ⟨6, a, b, c⟩).StandsAt (.out .ebx) := h.standsAt rfl
  have hout : (m.atStage ⟨6, a, b, c⟩).round =
      .running ((m.atStage ⟨6, a, b, c⟩).output (decimal b)) := by
    refine (Advances.out hat).round h.trace fun source hsource ↦ ?_
    obtain ⟨⟩ := hat.unique hsource
    exact ⟨hshort, hsink⟩
  refine .of_round ((run_succ_of_running hrun).trans hout) (round_of_outside ?_)
  -- the program has seven instructions
  have hsize : m.program.size = 7 := by rw [h.program]; rfl
  have hpc : ((m.atStage ⟨6, a, b, c⟩).output (decimal b)).pc = 7 := rfl
  rw [Bool.eq_false_iff, ne_eq, isInside_iff, hpc]
  show ¬(_ ∧ (7 : Int) < (m.program.size : Int))
  omega

/-! ### From any other number -/

/-- **The program goes in circles.** -/
theorem exists_execute_circles (h : ComputesFactorial n m) (hn : n ≤ 0) (k : Nat) :
    ∃ s : Stage, s.Circles n ∧ m.execute k = .running (m.atStage s) := by
  induction k with
  | zero => exact ⟨_, .setEax, m.execute_zero_eq_atStage⟩
  | succ k ih =>
    obtain ⟨s, hs, hrun⟩ := ih
    obtain ⟨t, hnext, ht⟩ := hs.exists_next hn
    exact ⟨t, ht, h.run_succ_of_next hrun hnext⟩

end ComputesFactorial

/-- **The factorial program is right for every number that it can start from.** Its lines load
without a diagnostic, with the one label at the start of the loop. From one or more it comes to its
output with the factorial in `EBX`, however large that is, and has written nothing before. A
factorial that is not too long to be written is then written, once, and the program ends behind its
last instruction. From zero or less **it never ends**: after any number of rounds it stands before
its output, and nothing is written. -/
theorem factorial_computes {n : Int} (hmin : literalMin ≤ n) (hmax : n ≤ literalMax) {m : Machine}
    (htrace : m.trace = false) :
    ∃ loaded, m.load ⟨factorialLines n, none⟩ = (loaded, .ok #[]) ∧
      loaded.labels.entries = [("f3", 3)] ∧ loaded.labels.write = .ok "[f3 -> 3]" ∧
      (1 ≤ n → ∃ k s, loaded.execute k = .running s ∧ s.pc = 6 ∧
        s.registers.get .eax = 0 ∧ s.registers.get .ebx = n.toNat.factorial ∧
        s.registers.get .ecx = 1 ∧
        (∀ r, r ≠ .eax → r ≠ .ebx → r ≠ .ecx → s.registers.get r = 0) ∧
        s.offered = m.offered ∧ s.emitted = m.emitted ∧
        ((Nat.toDigits 10 n.toNat.factorial).length ≤ digitLimit →
          (∀ offered, m.sink offered = none) →
          ∃ t, loaded.Ends t none ∧ t.status = .halted .normal ∧ t.pc = 7 ∧
            t.registers = s.registers ∧ t.offered = m.offered.push (decimal n.toNat.factorial) ∧
            t.emitted = m.emitted.push (decimal n.toNat.factorial))) ∧
      (n ≤ 0 → ∀ k, ∃ s, loaded.execute k = .running s ∧ 0 ≤ s.pc ∧ s.pc ≤ 5 ∧
        s.offered = m.offered ∧ s.emitted = m.emitted) := by
  obtain ⟨a, ha, hprogram, hlabels, hdiagnostics⟩ := assemble_factorialLines hmin hmax
  have hcomputes : ComputesFactorial n (m.install a) := ⟨hprogram, hlabels, htrace⟩
  refine ⟨m.install a, ?_, ?_, ?_, fun hn ↦ ?_, fun hn k ↦ ?_⟩
  · rw [load, ha, ← hdiagnostics]
  · show a.labels.entries = _
    rw [hlabels]
    rfl
  · show a.labels.write = _
    rw [hlabels, write_factorialLabels]
  · obtain ⟨k, hrun⟩ := hcomputes.exists_execute_output hn
    refine ⟨k, _, hrun, rfl, rfl, rfl, rfl, fun r heax hebx hecx ↦ ?_, rfl, rfl,
      fun hlength hsink ↦ ?_⟩
    · show (Stage.registers _).get r = 0
      rw [Stage.get_registers]
      split <;> trivial
    · have hshort : ((n.toNat.factorial : Nat) : Int).natAbs < digitBound :=
        lt_digitBound_iff.2 hlength
      exact ⟨_, hcomputes.ends_of_output hrun hshort hsink, rfl, rfl, rfl, rfl, rfl⟩
  · obtain ⟨s, hs, hrun⟩ := hcomputes.exists_execute_circles hn k
    exact ⟨_, hrun, Int.natCast_nonneg _, Int.ofNat_le.2 hs.place_le, rfl, rfl⟩

/-- The factorial of six is written; from minus one nothing ever is. -/
theorem factorial_computes_of_six :
    (∃ loaded t : Machine, ({} : Machine).load ⟨factorialLines 6, none⟩ = (loaded, .ok #[]) ∧
      loaded.Ends t none ∧ t.pc = 7 ∧ t.emitted = #["720"]) ∧
    ∃ loaded : Machine, ({} : Machine).load ⟨factorialLines (-1), none⟩ = (loaded, .ok #[]) ∧
      ∀ k, ∃ s, loaded.execute k = .running s ∧ s.emitted = #[] := by
  constructor
  · obtain ⟨loaded, hload, -, -, hends, -⟩ :=
      factorial_computes (n := 6) (m := {}) (by decide) (by decide) rfl
    obtain ⟨_, _, -, -, -, -, -, -, -, -, hwritten⟩ := hends (by decide)
    obtain ⟨t, hends, -, hpc, -, -, hemitted⟩ := hwritten (by decide +kernel) fun _ ↦ rfl
    have htext : decimal (Int.toNat 6).factorial = "720" := by decide +kernel
    refine ⟨loaded, t, hload, hends, hpc, ?_⟩
    rw [hemitted, htext]
    rfl
  · obtain ⟨loaded, hload, -, -, -, hcircles⟩ :=
      factorial_computes (n := -1) (m := {}) (by decide) (by decide) rfl
    refine ⟨loaded, hload, fun k ↦ ?_⟩
    obtain ⟨s, hrun, -, -, -, hemitted⟩ := hcircles (by decide) k
    exact ⟨s, hrun, hemitted⟩

end RegisterMachine
