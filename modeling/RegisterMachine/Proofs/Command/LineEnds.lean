import RegisterMachine.Command.Listing
import RegisterMachine.Proofs.Text.Lines
import RegisterMachine.Proofs.Text.Utf8

/-!
# The line ends of a source file

A source is a list of lines, and a file is a list of octets. Between the two stand the encoding, the
three ways to end a line and the choice whether the last line has an end. **None of this shows in
what is assembled** (`assembleFile_lineEnds`): a file gives the same program, labels and diagnostics
as the lines that were written to it.

Encoded lines are found again (`Utf8.decode_encode`, `fileLines_join`), except that a last line that
is empty may be lost or gained. This is the one thing that the assembling has to make up for, and it
does: an empty line at the end adds nothing, and no line comes after it whose number could change
(`assemble_concat_empty`).
-/

namespace RegisterMachine

open Source Text

/-! ### An empty line at the end -/

theorem Assembly.addLines_concat_empty (a : Assembly) (number : Nat) (lines : List String) :
    a.addLines number (lines ++ [""]) = a.addLines number lines := by
  rw [addLines_append]
  rcases a.addLines number lines with ⟨b, - | e⟩ <;> rfl

theorem assemble_concat_empty (lines : List String) :
    assemble ⟨lines ++ [""], none⟩ = assemble ⟨lines, none⟩ := by
  simp only [assemble, Assembly.addLines_concat_empty]

/-- Lines that differ by an empty one at the end assemble alike. -/
theorem assemble_eq_of_sameLines {lines others : List String} (h : SameLines lines others) :
    assemble ⟨lines, none⟩ = assemble ⟨others, none⟩ := by
  cases h with
  | refl => rfl
  | lost => exact (assemble_concat_empty lines).symm
  | gained => exact assemble_concat_empty others

namespace Command

/-- A file that holds an encoded text is read as that text. -/
theorem readSource_encode {files : Files} {path : Path} {text : List Char}
    (hpath : path.hasNull = false) (hfile : files path = .ok (Utf8.encode text)) :
    readSource files path = .ok (fileLines text) := by
  simp only [readSource, readText, hpath, hfile, Utf8.decode_encode]
  rfl

namespace Listing

/-- What the lines of a file give, with the announcement in front of the log. -/
theorem assembleFile_of_readSource {files : Files} {path : Path} {lines : List String}
    (h : readSource files path = .ok lines) :
    let given := assemble ⟨lines, none⟩
    assembleFile files path =
      ({ given.1 with log := #[collecting path] ++ given.1.log }, given.2.map .failure) := by
  intro given
  simp only [assembleFile, h, given]
  rcases assemble ⟨lines, none⟩ with ⟨a, - | f⟩ <;> rfl

/-- **A source file assembles as its lines do, whatever its line ends.** The lines have no line
break in them; the file holds them with any of the three line ends between them, and with one behind
the last line or not. Then assembling the file goes as far as assembling the lines does, and gives
the same labels, the same program with the labels of its instructions, and the same diagnostics with
the numbers of their lines. -/
theorem assembleFile_lineEnds {files : Files} {path : Path} {lines : List String}
    (hpath : path.hasNull = false) (hlines : ∀ line ∈ lines, IsInline line.toList) (e : LineEnd)
    (closed : Bool) (hfile : files path = .ok (Utf8.encode (e.join closed lines).toList)) :
    let given := assemble ⟨lines, none⟩
    let read := assembleFile files path
    read.2 = given.2.map .failure ∧ read.1.labels = given.1.labels ∧
      read.1.program = given.1.program ∧ read.1.diagnostics = given.1.diagnostics := by
  intro given read
  have hassemble := assemble_eq_of_sameLines (fileLines_join e closed hlines)
  have hread := assembleFile_of_readSource (readSource_encode hpath hfile)
  rw [hassemble] at hread
  simp only [read, hread]
  exact ⟨rfl, rfl, rfl, rfl⟩

/-- Four lines, the last one empty and without an end. -/
def returnTree : FileTree where
  files := [(["program"], Utf8.encode "f: jnz EAX f\ré\rf: out EAX\r".toList)]

/-- The diagnostics have the numbers of the lines, and the lost line is not missed. -/
theorem assembleFile_lineEnds_of_returns :
    let lines := ["f: jnz EAX f", "é", "f: out EAX", ""]
    let read := assembleFile returnTree.read (.ofString "program")
    readSource returnTree.read (.ofString "program") = .ok lines.dropLast ∧
      (assemble ⟨lines, none⟩).2 = none ∧ read.2 = none ∧
      read.1.labels = LabelTable.empty.insert "f" 0 ∧
      read.1.program = #[⟨some "f", .jnz .eax "f"⟩] ∧
      read.1.diagnostics = #[⟨2, .unknownOpcode "é"⟩, ⟨3, .duplicateLabel "f"⟩] := by
  intro lines read
  have hreturns : (assemble ⟨lines, none⟩).2 = none := by decide +kernel
  obtain ⟨herror, hlabels, hprogram, hdiagnostics⟩ := @assembleFile_lineEnds returnTree.read
    (.ofString "program") lines (by decide) (by decide) .carriageReturn false rfl
  refine ⟨rfl, hreturns, ?_, ?_, ?_, ?_⟩
  · rw [herror, hreturns]
    rfl
  · rw [hlabels]
    decide +kernel
  · rw [hprogram]
    decide +kernel
  · rw [hdiagnostics]
    decide +kernel

end Listing

end Command

end RegisterMachine
