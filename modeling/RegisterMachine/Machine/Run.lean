import RegisterMachine.Machine.Step

/-!
# Running a machine

A run starts at the first instruction with all registers at zero and goes on as long as the
program counter stands at an instruction. It may go on forever, so `Machine.run` is given a bound
on the number of rounds, and answers where the run stands when they are used up. What it answers
about an ended run does not depend on the bound.
-/

namespace RegisterMachine

/-- Where a run stands. -/
inductive Progress where
  /-- It goes on. -/
  | running (m : Machine)
  /-- It has come to its end, or a failure has cut it short. -/
  | ended (m : Machine) (failure? : Option Failure)

/-- The machine as it stands. -/
def Progress.machine : Progress → Machine
  | running m => m
  | ended m _ => m

namespace Machine

/-- The machine after a failure: a fault halts it. -/
def afterFailure (m : Machine) (f : Failure) : Machine := if f.isFault then m.halt .fault else m

/-- One round of a run: a step, or the end. -/
def round (m : Machine) : Progress :=
  if m.isInside then
    match m.step with
    | (m, none) => .running m
    | (m, some f) => .ended (m.afterFailure f) (some f)
  else .ended (m.halt .normal) none

/-- At most the given number of rounds. -/
def run : Nat → Machine → Progress
  | 0, m => .running m
  | rounds + 1, m =>
    match m.round with
    | .running m => m.run rounds
    | ended => ended

/-! ### Rounds in sequence -/

@[simp] theorem run_zero (m : Machine) : m.run 0 = .running m := rfl

theorem run_succ (rounds : Nat) (m : Machine) :
    m.run (rounds + 1) = match m.round with
      | .running m => m.run rounds
      | .ended m failure? => .ended m failure? := by
  rw [run]
  cases m.round <;> rfl

/-- What a round keeps, a run keeps. -/
theorem run_induction {P : Progress → Prop} (hround : ∀ {m : Machine}, P (.running m) → P m.round)
    {m : Machine} (h : P (.running m)) (rounds : Nat) : P (m.run rounds) := by
  induction rounds generalizing m with
  | zero => exact h
  | succ rounds ih =>
    have hnext := hround h
    rw [run_succ]
    cases hcase : m.round with
    | running n =>
      rw [hcase] at hnext
      exact ih hnext
    | ended n failure? =>
      rw [hcase] at hnext
      exact hnext

/-- Rounds after rounds: an ended run stays as it is. -/
theorem run_add (first second : Nat) (m : Machine) :
    m.run (first + second) = match m.run first with
      | .running m => m.run second
      | .ended m failure? => .ended m failure? := by
  induction first generalizing m with
  | zero => simp
  | succ first ih =>
    rw [Nat.add_right_comm, run_succ, run_succ]
    cases m.round with
    | running m => exact ih m
    | ended m failure? => rfl

/-- What is answered about an ended run does not depend on the bound. -/
theorem run_eq_ended_of_le {rounds more : Nat} {m n : Machine} {failure? : Option Failure}
    (hle : rounds ≤ more) (h : m.run rounds = .ended n failure?) :
    m.run more = .ended n failure? := by
  obtain ⟨rest, rfl⟩ := Nat.exists_eq_add_of_le hle
  rw [run_add, h]

/-- Ready for the first instruction. -/
def start (m : Machine) : Machine :=
  { m with state := .running, haltReason? := none, pc := 0, registers := .zero }

/-- Runs the program from its start. -/
def execute (rounds : Nat) (m : Machine) : Progress := m.start.run rounds

end Machine

end RegisterMachine
