import Mathlib.Data.List.Basic
import RegisterMachine.Assembly
import RegisterMachine.Proofs.Source.Language

/-!
# Labels and the places they name

While a program is assembled, its label table always says the same as the labels of its
instructions: a label is bound to a place exactly when the instruction at this place carries it
(`LabelsMatch`). It holds of whatever has been assembled when a source breaks off or a number is
too long, since nothing is left half done between two lines.

Lines act on an assembly in two ways only, by adding an instruction or a diagnostic, so every such
invariant is proved by `Assembly.addLines_induction` from these two.
-/

namespace RegisterMachine

open Source

namespace Assembly

/-! ### What one line does -/

@[simp] theorem program_addInstruction (a : Assembly) (i : Instruction) :
    (a.addInstruction i).program = a.program.push i := by
  rw [addInstruction]
  split <;> rfl

@[simp] theorem diagnostics_addInstruction (a : Assembly) (i : Instruction) :
    (a.addInstruction i).diagnostics = a.diagnostics := by
  rw [addInstruction]
  split <;> rfl

/-- An instruction binds its label to the place it takes, and no other label. -/
theorem get?_labels_addInstruction (a : Assembly) (i : Instruction) (name : String) :
    (a.addInstruction i).labels.get? name =
      if i.label? = some name then some (a.program.size : Int) else a.labels.get? name := by
  rw [addInstruction]
  cases hlabel : i.label? with
  | none => simp
  | some label => simp [LabelTable.get?_insert, eq_comm]

/-- **What every line keeps, lines keep**, up to where they are read. -/
theorem addLines_induction {P : Assembly → Prop}
    (hinstruction : ∀ {a line i}, P a → readLine a.labels line = .ok (.instruction i) →
      P (a.addInstruction i))
    (hdiagnostic : ∀ {a} (d : Diagnostic), P a → P (a.addDiagnostic d)) {a : Assembly} (h : P a)
    (number : Nat) (lines : List String) : P (a.addLines number lines).1 := by
  induction lines generalizing a number with
  | nil => exact h
  | cons line rest ih =>
    rw [addLines]
    cases hread : readLine a.labels line with
    | error e => exact h
    | ok reading =>
      refine ih ?_ (number + 1)
      cases reading with
      | blank => exact h
      | instruction i => exact hinstruction h hread
      | defect d => exact hdiagnostic ⟨number, d⟩ h

end Assembly

/-- What lines keep of program and labels is true of whatever a source gives, also if it breaks
off. -/
theorem assemble_induction {P : Array Instruction → LabelTable → Prop} (hempty : P #[] .empty)
    (hinstruction : ∀ {a : Assembly} {line i}, P a.program a.labels →
      readLine a.labels line = .ok (.instruction i) →
      P (a.addInstruction i).program (a.addInstruction i).labels) (source : LineSource) :
    P (assemble source).1.program (assemble source).1.labels := by
  have hlines := Assembly.addLines_induction (P := fun a ↦ P a.program a.labels) hinstruction
    (fun _ h ↦ h) (a := {}) hempty 1 source.lines
  rw [assemble]
  split
  next hadd => rwa [hadd] at hlines
  next hadd =>
    rw [hadd] at hlines
    split <;> exact hlines

/-! ### The table and the labels of the instructions -/

/-- A label is bound to a place exactly when the instruction at this place carries it. -/
def LabelsMatch (program : Array Instruction) (labels : LabelTable) : Prop :=
  ∀ label place, labels.get? label = some place ↔
    ∃ (k : Nat) (i : Instruction), place = k ∧ program[k]? = some i ∧ i.label? = some label

namespace LabelsMatch

variable {program : Array Instruction} {labels : LabelTable}

theorem empty : LabelsMatch #[] .empty := by
  intro label place
  simp

/-- The place of an instruction with a label. -/
theorem get?_eq (h : LabelsMatch program labels) {k : Nat} {i : Instruction} {label : String}
    (hk : program[k]? = some i) (hlabel : i.label? = some label) :
    labels.get? label = some (k : Int) :=
  (h label k).2 ⟨k, i, rfl, hk, hlabel⟩

/-- **No label is carried twice.** -/
theorem place_unique (h : LabelsMatch program labels) {j k : Nat} {i i' : Instruction}
    {label : String} (hj : program[j]? = some i) (hk : program[k]? = some i')
    (hi : i.label? = some label) (hi' : i'.label? = some label) : j = k := by
  have hplaces := (h.get?_eq hj hi).symm.trans (h.get?_eq hk hi')
  exact Int.ofNat_inj.1 (Option.some.inj hplaces)

theorem nodup (h : LabelsMatch program labels) : (program.toList.filterMap (·.label?)).Nodup := by
  rw [List.Nodup, List.pairwise_filterMap, List.pairwise_iff_getElem]
  intro j k hj hk hlt label hi label' hi' heq
  subst heq
  have hplace : ∀ {n : Nat} (hn : n < program.toList.length),
      program[n]? = some program.toList[n] := by
    intro n hn
    rw [← Array.getElem?_toList, List.getElem?_eq_getElem hn]
  have := h.place_unique (hplace hj) (hplace hk) hi hi'
  omega

/-- The labels of the instructions determine the table. -/
theorem eq {labels' : LabelTable} (h : LabelsMatch program labels)
    (h' : LabelsMatch program labels') : labels = labels' :=
  LabelTable.ext_get? fun label ↦ Option.ext fun place ↦ (h label place).trans (h' label place).symm

/-- A line that adds an instruction keeps table and labels together, because its label was
free. -/
theorem addInstruction {a : Assembly} {line : String} {i : Instruction}
    (h : LabelsMatch a.program a.labels) (hread : readLine a.labels line = .ok (.instruction i)) :
    LabelsMatch (a.addInstruction i).program (a.addInstruction i).labels := by
  obtain ⟨-, hfree⟩ := spells_of_readLine hread
  intro label place
  rw [a.get?_labels_addInstruction, a.program_addInstruction]
  by_cases hlabel : i.label? = some label
  · -- the label was free, so no instruction before carries it
    have hnone : a.labels.get? label = none := by
      simpa [LabelTable.contains] using hfree label hlabel
    rw [if_pos hlabel]
    constructor
    · rintro ⟨⟩
      exact ⟨a.program.size, i, rfl, Array.getElem?_push_size, hlabel⟩
    · rintro ⟨k, j, rfl, hk, hj⟩
      rw [Array.getElem?_push] at hk
      split at hk
      next hsize => rw [hsize]
      next => exact nomatch hnone.symm.trans (h.get?_eq hk hj)
  · rw [if_neg hlabel, h label place]
    constructor
    · rintro ⟨k, j, rfl, hk, hj⟩
      obtain ⟨hlt, -⟩ := Array.getElem?_eq_some_iff.1 hk
      refine ⟨k, j, rfl, ?_, hj⟩
      rw [Array.getElem?_push, if_neg (by omega), hk]
    · rintro ⟨k, j, rfl, hk, hj⟩
      rw [Array.getElem?_push] at hk
      split at hk
      · obtain rfl := Option.some.inj hk
        exact absurd hj hlabel
      · exact ⟨k, j, rfl, hk, hj⟩

end LabelsMatch

/-- **The labels of every assembled program match**, however far the source goes. -/
theorem labelsMatch_assemble (source : LineSource) :
    LabelsMatch (assemble source).1.program (assemble source).1.labels :=
  assemble_induction .empty (fun h hread ↦ h.addInstruction hread) source

end RegisterMachine
