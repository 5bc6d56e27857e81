import Mathlib.Data.List.Forall2
import RegisterMachine.Machine.Basic
import RegisterMachine.Proofs.Assembly.Places
import RegisterMachine.Proofs.Source.Writing

/-!
# Writing a program and reading it again

A program that is written line by line and assembled again comes back as it was, labels included,
exactly when its instructions are well-formed and no label is carried twice
(`assemble_write_iff`). Two facts meet in this.

* **What was assembled is well-formed** (`isWellFormedProgram_assemble`), so no other program can
  come back.
* **Lines that spell a program assemble to it** (`assemble_of_spells`), if no label is carried
  twice: each line finds its label free, since the labels bound so far are those of the lines
  before it. How a well-formed instruction is written is one of its spellings.

So the listing of a loaded program loads as this program, with the same labels bound to the same
places: the table has no choice, once the program is given (`LabelsMatch.eq`).
-/

namespace RegisterMachine

open Source Text

/-- Every instruction is well-formed, and no label is carried twice. -/
structure IsWellFormedProgram (program : List Instruction) : Prop where
  isWellFormed : ∀ i ∈ program, i.IsWellFormed
  nodup : (program.filterMap (·.label?)).Nodup

/-! ### Assembled programs are well-formed -/

/-- **What was assembled is well-formed**, however far the source goes. -/
theorem isWellFormedProgram_assemble (source : LineSource) :
    IsWellFormedProgram (assemble source).1.program.toList := by
  refine ⟨?_, (labelsMatch_assemble source).nodup⟩
  refine assemble_induction (P := fun program _ ↦ ∀ i ∈ program.toList, i.IsWellFormed)
    (by simp) (fun {a line i} h hread ↦ ?_) source
  obtain ⟨hspells, -⟩ := spells_of_readLine hread
  rw [a.program_addInstruction, Array.toList_push]
  intro j hj
  rcases List.mem_append.1 hj with hj | hj
  · exact h j hj
  · obtain rfl := List.mem_singleton.1 hj
    exact hspells.isWellFormed

/-! ### Lines that spell a program -/

/-- Lines that spell instructions are taken in without a diagnostic, if their labels are free and
all different. -/
theorem Assembly.addLines_of_spells {a : Assembly} {program : List Instruction}
    {lines : List String}
    (h : List.Forall₂ (fun i line ↦ Spells i (strip line.toList)) program lines)
    (hnodup : (program.filterMap (·.label?)).Nodup)
    (hfree : ∀ i ∈ program, ∀ label, i.label? = some label → a.labels.contains label = false)
    (number : Nat) :
    ∃ b, a.addLines number lines = (b, none) ∧ b.program.toList = a.program.toList ++ program ∧
      b.diagnostics = a.diagnostics := by
  induction h generalizing a number with
  | nil => exact ⟨a, rfl, by simp, rfl⟩
  | @cons i line program lines hspells hrest ih =>
    obtain ⟨hi, hlater⟩ := List.forall_mem_cons.1 hfree
    have hread : readLine a.labels line = .ok (.instruction i) := hspells.readLine_eq hi
    -- the line binds no label but its own, which no later line carries
    have hfree' : ∀ j ∈ program, ∀ label, j.label? = some label →
        (a.addInstruction i).labels.contains label = false := by
      intro j hj label hlabel
      have hne : i.label? ≠ some label := by
        intro heq
        rw [List.filterMap_cons_some heq, List.nodup_cons] at hnodup
        exact hnodup.1 (List.mem_filterMap.2 ⟨j, hj, hlabel⟩)
      rw [LabelTable.contains, a.get?_labels_addInstruction, if_neg hne]
      exact hlater j hj label hlabel
    have hnodup' : (program.filterMap (·.label?)).Nodup :=
      hnodup.sublist ((List.sublist_cons_self i program).filterMap _)
    obtain ⟨b, hadd, hprogram, hdiagnostics⟩ := ih hnodup' hfree' (number + 1)
    refine ⟨b, ?_, ?_, ?_⟩
    · rw [addLines, hread]
      exact hadd
    · rw [hprogram, a.program_addInstruction, Array.toList_push, List.append_assoc,
        List.singleton_append]
    · rw [hdiagnostics, a.diagnostics_addInstruction]

/-- **Lines that spell a program assemble to it.** -/
theorem assemble_of_spells {program : List Instruction} {lines : List String}
    (h : List.Forall₂ (fun i line ↦ Spells i (strip line.toList)) program lines)
    (hnodup : (program.filterMap (·.label?)).Nodup) :
    ∃ a, assemble ⟨lines, none⟩ = (a, none) ∧ a.program.toList = program ∧
      a.diagnostics = #[] := by
  obtain ⟨b, hadd, hprogram, hdiagnostics⟩ :=
    Assembly.addLines_of_spells (a := {}) h hnodup (fun _ _ _ _ ↦ rfl) 1
  refine ⟨b.close, ?_, hprogram, hdiagnostics⟩
  rw [assemble, hadd]

/-! ### Written programs -/

/-- Well-formed instructions are written one by one, each on a line of its own that spells it. -/
theorem exists_mapM_write {program : List Instruction} (h : ∀ i ∈ program, i.IsWellFormed) :
    ∃ lines, program.mapM Instruction.write = .ok lines ∧
      List.Forall₂ (fun i line ↦ Spells i (strip line.toList)) program lines ∧
      ∀ line ∈ lines, IsInline line.toList ∧ line.toList ≠ [] := by
  induction program with
  | nil => exact ⟨[], rfl, .nil, by simp⟩
  | cons i program ih =>
    obtain ⟨hi, hprogram⟩ := List.forall_mem_cons.1 h
    obtain ⟨line, hwrite, hspells, hinline⟩ := hi.exists_write
    obtain ⟨lines, hmap, hlines, hinlines⟩ := ih hprogram
    have hstrip : Spells i (strip line.toList) := by
      rw [hspells.isTrimmed.strip_eq]
      exact hspells
    refine ⟨line :: lines, ?_, .cons hstrip hlines, ?_⟩
    · rw [List.mapM_cons, hwrite, hmap]
      rfl
    · exact List.forall_mem_cons.2 ⟨⟨hinline, hspells.ne_nil⟩, hinlines⟩

/-- **A well-formed program is written in lines that assemble to it**, and that stay apart in a
listing. -/
theorem IsWellFormedProgram.exists_lines {program : List Instruction}
    (h : IsWellFormedProgram program) :
    ∃ lines a, program.mapM Instruction.write = .ok lines ∧
      fileLines ("\n".intercalate lines).toList = lines ∧ assemble ⟨lines, none⟩ = (a, none) ∧
      a.program.toList = program ∧ a.diagnostics = #[] := by
  obtain ⟨lines, hwrite, hspells, hinline⟩ := exists_mapM_write h.isWellFormed
  obtain ⟨a, hassemble, hprogram, hdiagnostics⟩ := assemble_of_spells hspells h.nodup
  exact ⟨lines, a, hwrite, fileLines_intercalate hinline, hassemble, hprogram, hdiagnostics⟩

/-- **The listing of a loaded program loads as this program**, into any machine, without a
diagnostic and with the same labels. -/
theorem exists_listing_load (m : Machine) (source : LineSource) :
    ∃ text, (m.load source).1.listing = .ok text ∧
      ∀ n : Machine, ∃ loaded, n.load ⟨fileLines text.toList, none⟩ = (loaded, .ok #[]) ∧
        loaded.program = (m.load source).1.program ∧
        loaded.labels = (m.load source).1.labels := by
  obtain ⟨lines, a, hwrite, hsplit, hassemble, hprogram, hdiagnostics⟩ :=
    (isWellFormedProgram_assemble source).exists_lines
  have hmatch : LabelsMatch a.program a.labels := by
    have hmatch := labelsMatch_assemble ⟨lines, none⟩
    rwa [hassemble] at hmatch
  have hsame : a.program = (assemble source).1.program := Array.toList_inj.1 hprogram
  rw [m.fst_load source]
  refine ⟨"\n".intercalate lines, ?_, fun n ↦ ⟨n.install a, ?_, hsame, ?_⟩⟩
  · rw [Machine.listing, Machine.install, hwrite]
  · rw [hsplit, Machine.load, hassemble, ← hdiagnostics]
  · rw [hsame] at hmatch
    exact hmatch.eq (labelsMatch_assemble source)

/-- **Writing and assembling undo each other exactly on the well-formed programs.** The lines in
which a program is written assemble to it, without a diagnostic, exactly when every label and every
target is an identifier, every number has 32 bits and no label is carried twice. So the listing of
whatever was loaded loads as the same program with the same labels. -/
theorem assemble_write_iff :
    (∀ program : List Instruction,
      (∃ lines a, program.mapM Instruction.write = .ok lines ∧
        assemble ⟨lines, none⟩ = (a, none) ∧ a.program.toList = program ∧
        a.diagnostics = #[]) ↔ IsWellFormedProgram program) ∧
    ∀ (m : Machine) (source : LineSource), ∃ text,
      (m.load source).1.listing = .ok text ∧
      ∀ n : Machine, ∃ loaded, n.load ⟨fileLines text.toList, none⟩ = (loaded, .ok #[]) ∧
        loaded.program = (m.load source).1.program ∧
        loaded.labels = (m.load source).1.labels := by
  refine ⟨fun program ↦ ⟨?_, fun h ↦ ?_⟩, exists_listing_load⟩
  · rintro ⟨lines, a, -, hassemble, rfl, -⟩
    have hformed := isWellFormedProgram_assemble ⟨lines, none⟩
    rwa [hassemble] at hformed
  · obtain ⟨lines, a, hwrite, -, hassemble, hprogram, hdiagnostics⟩ := h.exists_lines
    exact ⟨lines, a, hwrite, hassemble, hprogram, hdiagnostics⟩

end RegisterMachine
