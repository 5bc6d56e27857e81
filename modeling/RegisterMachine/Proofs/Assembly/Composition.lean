import RegisterMachine.Proofs.Assembly.Meaning
import RegisterMachine.Proofs.Assembly.Recovery

/-!
# Assembling one list of lines after another

Two lists of lines that bind different labels can be assembled apart and put together afterwards:
the programs are appended, the places of the second list move on by the size of the first program,
and the line numbers of its diagnostics by the length of the first list (`assemble_append`). These
are **two offsets, not one**: blank and defective lines count for the second but not for the first.

The comparison runs along the second list, with two assemblies side by side: `b` has begun with
nothing, and `c` with what the first list gave (`Assembly.Joins`). A line reads alike for both,
since the labels that only `c` has are carried by no line of the second list
(`Assembly.Joins.readLine_eq`); so both take it in alike (`Assembly.Joins.addReading`), line after
line (`Assembly.Joins.addLines`).
-/

namespace RegisterMachine

open Source

/-- The same diagnostic, with more lines before it. -/
def Diagnostic.after (d : Diagnostic) (lines : Nat) : Diagnostic := { d with line := d.line + lines }

/-! ### Tables that agree about a line -/

theorem instructionOf?_eq_some_iff {line : String} {i : Instruction} :
    instructionOf? line = some i ↔ readLine .empty line = .ok (.instruction i) := by
  rw [instructionOf?, ownReading?]
  rcases readLine .empty line with e | (_ | j | d) <;>
    simp [Except.toOption, Reading.instruction?]

/-- A line that reads as an instruction with some table does so for itself. -/
theorem instructionOf?_of_readLine {labels : LabelTable} {line : String} {i : Instruction}
    (h : readLine labels line = .ok (.instruction i)) : instructionOf? line = some i := by
  rw [instructionOf?_eq_some_iff]
  rw [readLine_eq_of_empty] at h
  split at h
  next j hown =>
    obtain ⟨rfl, -⟩ := checkLabel_eq_instruction_iff.1 (Except.ok.inj h)
    exact hown
  next => exact h

/-- The check of a label asks no table about any other label. -/
theorem Source.checkLabel_congr {labels labels' : LabelTable} {i : Instruction}
    (h : ∀ label, i.label? = some label → labels.contains label = labels'.contains label) :
    checkLabel labels i = checkLabel labels' i := by
  cases hlabel : i.label? with
  | none => rw [checkLabel_of_none hlabel, checkLabel_of_none hlabel]
  | some label => rw [checkLabel_of_some hlabel, checkLabel_of_some hlabel, h label hlabel]

/-- **A line reads alike with two tables that agree about its label.** -/
theorem readLine_congr {labels labels' : LabelTable} {line : String}
    (h : ∀ label, labelOf? line = some label → labels.contains label = labels'.contains label) :
    readLine labels line = readLine labels' line := by
  rw [readLine_eq_of_empty labels, readLine_eq_of_empty labels']
  rcases hread : readLine .empty line with e | (_ | i | d)
  · rfl
  · rfl
  · have hlabel : labelOf? line = i.label? := by
      rw [labelOf?, instructionOf?_eq_some_iff.2 hread]
      rfl
    exact congrArg _ (checkLabel_congr fun label hi ↦ h label (hlabel.trans hi))
  · rfl

namespace Assembly

/-! ### What is put together -/

/-- What was assembled to `a`, followed by what was assembled to `b` from lines that come after
`lines` others. -/
structure Joins (a : Assembly) (lines : Nat) (b c : Assembly) : Prop where
  program : c.program = a.program ++ b.program
  labels : ∀ label, c.labels.get? label =
    (a.labels.get? label).or ((b.labels.get? label).map (· + (a.program.size : Int)))
  diagnostics : c.diagnostics = a.diagnostics ++ b.diagnostics.map (·.after lines)

namespace Joins

variable {a b c : Assembly} {lines : Nat}

/-- Nothing is put after `a`. -/
theorem empty (a : Assembly) (lines : Nat) : a.Joins lines {} a where
  program := Array.append_empty.symm
  labels label := Option.or_none.symm
  diagnostics := by simp

theorem contains_eq (h : a.Joins lines b c) (label : String) :
    c.labels.contains label = (a.labels.contains label || b.labels.contains label) := by
  rw [LabelTable.contains, h.labels, Option.isSome_or, Option.isSome_map]
  rfl

/-- A line whose label is not bound by `a` reads alike in both assemblies. -/
theorem readLine_eq (h : a.Joins lines b c) {line : String}
    (hfree : ∀ label, labelOf? line = some label → a.labels.contains label = false) :
    readLine c.labels line = readLine b.labels line :=
  readLine_congr fun label hlabel ↦ by rw [h.contains_eq, hfree label hlabel, Bool.false_or]

theorem addInstruction (h : a.Joins lines b c) {i : Instruction}
    (hfree : ∀ label, i.label? = some label → a.labels.contains label = false) :
    a.Joins lines (b.addInstruction i) (c.addInstruction i) where
  program := by
    rw [program_addInstruction, program_addInstruction, h.program, Array.append_push]
  labels label := by
    rw [get?_labels_addInstruction, get?_labels_addInstruction, h.labels]
    split
    next hlabel =>
      -- the next place of `c` is the next place of `b`, moved on by the size of `a`
      have hnone : a.labels.get? label = none := by
        simpa [LabelTable.contains] using hfree label hlabel
      have hsize : (c.program.size : Int) = b.program.size + a.program.size := by
        rw [h.program, Array.size_append]
        omega
      rw [hnone, Option.none_or, Option.map_some, hsize]
    next => rfl
  diagnostics := by
    rw [diagnostics_addInstruction, diagnostics_addInstruction, h.diagnostics]

theorem addDiagnostic (h : a.Joins lines b c) (number : Nat) (d : Defect) :
    a.Joins lines (b.addDiagnostic ⟨number, d⟩) (c.addDiagnostic ⟨↑(number + lines), d⟩) where
  program := h.program
  labels := h.labels
  diagnostics := by
    simp [Assembly.addDiagnostic, h.diagnostics, Diagnostic.after]

/-- **Both take in a line alike.** -/
theorem addReading (h : a.Joins lines b c) {line : String} {reading : Reading}
    (hread : readLine b.labels line = .ok reading)
    (hfree : ∀ label, labelOf? line = some label → a.labels.contains label = false)
    (number : Nat) :
    a.Joins lines (b.addReading number reading) (c.addReading (number + lines) reading) := by
  cases reading with
  | blank => exact h
  | instruction i =>
    refine h.addInstruction fun label hlabel ↦ hfree label ?_
    rw [labelOf?, instructionOf?_of_readLine hread]
    exact hlabel
  | defect d => exact h.addDiagnostic number d

/-- **Both take in lines alike**, and go as far with them. -/
theorem addLines (h : a.Joins lines b c) {second : List String}
    (hfree : ∀ line ∈ second, ∀ label, labelOf? line = some label →
      a.labels.contains label = false) (number : Nat) :
    a.Joins lines (b.addLines number second).1 (c.addLines (number + lines) second).1 ∧
      (c.addLines (number + lines) second).2 = (b.addLines number second).2 := by
  induction second generalizing b c number with
  | nil => exact ⟨h, rfl⟩
  | cons line rest ih =>
    obtain ⟨hline, hrest⟩ := List.forall_mem_cons.1 hfree
    rw [Assembly.addLines, Assembly.addLines, h.readLine_eq hline]
    cases hread : readLine b.labels line with
    | error e => exact ⟨h, rfl⟩
    | ok reading =>
      rw [Nat.add_right_comm number lines 1]
      exact ih (h.addReading hread hline number) hrest (number + 1)

theorem close (h : a.Joins lines b c) : a.close.Joins lines b.close c.close :=
  ⟨h.program, h.labels, h.diagnostics⟩

end Joins

end Assembly

/-! ### Lists of lines -/

/-- **Lists of lines that bind different labels are assembled apart.** -/
theorem exists_joins_of_assemble {first second : List String} {a b : Assembly}
    (ha : assemble ⟨first, none⟩ = (a, none)) (hb : assemble ⟨second, none⟩ = (b, none))
    (hapart : ∀ label, a.labels.contains label = true → b.labels.contains label = false) :
    ∃ c, assemble ⟨first ++ second, none⟩ = (c, none) ∧ a.Joins first.length b c := by
  obtain ⟨a, hfirst, rfl⟩ := assemble_eq_none_iff.1 ha
  obtain ⟨b, hsecond, rfl⟩ := assemble_eq_none_iff.1 hb
  -- what a line of the second list carries, the second list binds
  have hfree : ∀ line ∈ second, ∀ label, labelOf? line = some label →
      a.labels.contains label = false := by
    intro line hline label hlabel
    have hbound : b.labels.contains label = true := by
      rw [(Describes.of_addLines hsecond).contains_eq]
      exact List.any_eq_true.2 ⟨line, hline, by simp [carries, hlabel]⟩
    refine Bool.eq_false_iff.2 fun hcontains ↦ ?_
    exact absurd hbound (Bool.eq_false_iff.1 (hapart label hcontains))
  obtain ⟨hjoins, hread⟩ := (Assembly.Joins.empty a first.length).addLines hfree 1
  rw [hsecond] at hjoins hread
  refine ⟨_, assemble_eq_none_iff.2 ⟨_, ?_, rfl⟩, hjoins.close⟩
  rw [Assembly.addLines_append, hfirst]
  exact Prod.ext rfl hread

/-- **Assembling is compositional.** If two lists of lines are assembled to their ends and bind no
common label, then so is the second list after the first: the programs are appended; a label is
bound to the place it has for the first list, or to the place it has for the second, moved on by
the size of the first program; and the diagnostics of the second list follow those of the first,
with the same defects, at line numbers that are moved on by the length of the first list. -/
theorem assemble_append {first second : List String} {a b : Assembly}
    (ha : assemble ⟨first, none⟩ = (a, none)) (hb : assemble ⟨second, none⟩ = (b, none))
    (hapart : ∀ label, a.labels.contains label = true → b.labels.contains label = false) :
    ∃ c, assemble ⟨first ++ second, none⟩ = (c, none) ∧
      c.program = a.program ++ b.program ∧
      (∀ label, c.labels.get? label =
        (a.labels.get? label).or ((b.labels.get? label).map (· + (a.program.size : Int)))) ∧
      c.diagnostics =
        a.diagnostics ++ b.diagnostics.map fun d ↦ ⟨d.line + first.length, d.defect⟩ := by
  obtain ⟨c, hc, hjoins⟩ := exists_joins_of_assemble ha hb hapart
  exact ⟨c, hc, hjoins.program, hjoins.labels, hjoins.diagnostics⟩

/-- A blank and a defective line before, a repeated label and an unknown opcode after. -/
theorem assemble_append_of_defects :
    ∃ c, assemble ⟨["f: mov EAX 1", "", "mov EAX"] ++ ["g: out EAX", "g: out EBX", "halt"], none⟩ =
        (c, none) ∧
      c.program = #[⟨some "f", .mov .eax 1⟩, ⟨some "g", .out .eax⟩] ∧
      c.labels.get? "f" = some 0 ∧ c.labels.get? "g" = some 1 ∧
      c.diagnostics = #[⟨3, .unreadable (.expected .integer) 8⟩, ⟨5, .duplicateLabel "g"⟩,
        ⟨6, .unknownOpcode "halt"⟩] := by
  obtain ⟨a, ha⟩ : ∃ a, assemble ⟨["f: mov EAX 1", "", "mov EAX"], none⟩ = (a, none) :=
    ⟨_, Prod.ext rfl (by decide +kernel)⟩
  obtain ⟨b, hb⟩ : ∃ b, assemble ⟨["g: out EAX", "g: out EBX", "halt"], none⟩ = (b, none) :=
    ⟨_, Prod.ext rfl (by decide +kernel)⟩
  obtain ⟨hprogram, hlabels, hdiagnostics⟩ :
      a.program = #[⟨some "f", .mov .eax 1⟩] ∧ a.labels.entries = [("f", 0)] ∧
        a.diagnostics = #[⟨3, .unreadable (.expected .integer) 8⟩] := by
    rw [show a = _ from (congrArg Prod.fst ha).symm]
    decide +kernel
  obtain ⟨hprogram', hlabels', hdiagnostics'⟩ :
      b.program = #[⟨some "g", .out .eax⟩] ∧ b.labels.entries = [("g", 0)] ∧
        b.diagnostics = #[⟨2, .duplicateLabel "g"⟩, ⟨3, .unknownOpcode "halt"⟩] := by
    rw [show b = _ from (congrArg Prod.fst hb).symm]
    decide +kernel
  have hget : ∀ label, a.labels.get? label = if label = "f" then some 0 else none := by
    intro label
    rw [LabelTable.get?, hlabels, LabelTable.lookup_cons, List.lookup_nil]
  have hget' : ∀ label, b.labels.get? label = if label = "g" then some 0 else none := by
    intro label
    rw [LabelTable.get?, hlabels', LabelTable.lookup_cons, List.lookup_nil]
  have hapart : ∀ label, a.labels.contains label = true → b.labels.contains label = false := by
    intro label hlabel
    obtain rfl : label = "f" := by simpa [LabelTable.contains, hget] using hlabel
    simp [LabelTable.contains, hget']
  obtain ⟨c, hc, hjoined, hplaces, hreports⟩ := assemble_append ha hb hapart
  refine ⟨c, hc, ?_, ?_, ?_, ?_⟩
  · rw [hjoined, hprogram, hprogram']
    rfl
  · simp [hplaces, hget]
  · simp [hplaces, hget, hget', hprogram]
  · rw [hreports, hdiagnostics, hdiagnostics']
    decide +kernel

end RegisterMachine
