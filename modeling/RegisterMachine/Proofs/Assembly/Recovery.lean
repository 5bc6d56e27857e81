import RegisterMachine.Machine.Basic
import RegisterMachine.Proofs.Assembly.Places
import RegisterMachine.Proofs.Source.LongNumber
import RegisterMachine.Proofs.Source.Writing

/-!
# Recovery from defective lines

A defective line does not stop the assembling: it is reported, and the next line is read. What one
line does to what has been assembled before it is `Assembly.TakesIn`: nothing if it is blank, one
more instruction if it spells one with a free label, and one more diagnostic in every other case.

There is one kind of line that is not reported, and it stops the assembling: a line that moves an
overlong number (`MovesOverlong`). That it is the only one is `assemble_recovers`. The exact
condition for one line is `Source.readLine_eq_error_iff`, and since it does not depend on the
labels, a list of lines is assembled to its end exactly when none of them is of this kind, whatever
the other lines bind.
-/

namespace RegisterMachine

open Source Text

/-- The line, freed of the blanks around it, moves a number with more digits than are read. -/
def MovesOverlong (line : String) : Prop := ∃ count, IsOverlongMove count (strip line.toList)

/-! ### What one line does -/

theorem readWith_ne_blank (op : Opcode) (labels : LabelTable) (text : List Char) :
    readWith op labels text ≠ .ok .blank := by
  rw [readWith]
  split
  next statement _ =>
    rw [checkLabel]
    split
    · simp
    · split <;> simp
  next => simp
  next => simp

/-- A line reads as blank exactly when there is nothing but blanks on it. -/
theorem readLine_eq_blank_iff {labels : LabelTable} {line : String} :
    readLine labels line = .ok .blank ↔ strip line.toList = [] := by
  constructor
  · intro hread
    rcases readLine_cases labels line with ⟨op, others, -, hwith⟩ | ⟨hnil, -⟩ | ⟨d, hdefect⟩
    · exact absurd (hwith.symm.trans hread) (readWith_ne_blank op labels _)
    · exact hnil
    · cases hdefect.symm.trans hread
  · intro hnil
    simp [readLine, hnil]

namespace Assembly

/-- What a line with the given number makes of an assembly. -/
inductive TakesIn (number : Nat) (line : String) (a b : Assembly) : Prop
  /-- Nothing stands on the line, and nothing changes. -/
  | blank (hline : strip line.toList = []) (hprogram : b.program = a.program)
      (hlabels : b.labels = a.labels) (hdiagnostics : b.diagnostics = a.diagnostics)
  /-- The instruction on the line is added, and its label bound to the place it takes. -/
  | instruction (i : Instruction) (hline : Spells i (strip line.toList))
      (hfree : ∀ label, i.label? = some label → a.labels.contains label = false)
      (hprogram : b.program = a.program.push i)
      (hlabels : ∀ name, b.labels.get? name =
        if i.label? = some name then some (a.program.size : Int) else a.labels.get? name)
      (hdiagnostics : b.diagnostics = a.diagnostics)
  /-- The line is reported: something stands on it, but no instruction with a free label. -/
  | report (d : Defect) (hline : strip line.toList ≠ [])
      (hspells : ∀ i, Spells i (strip line.toList) →
        ∃ label, i.label? = some label ∧ a.labels.contains label = true)
      (hprogram : b.program = a.program) (hlabels : b.labels = a.labels)
      (hdiagnostics : b.diagnostics = a.diagnostics.push ⟨number, d⟩)

/-- **What was read on a line is taken in.** -/
theorem takesIn_addReading {a : Assembly} {line : String} {reading : Reading}
    (hread : readLine a.labels line = .ok reading) (number : Nat) :
    TakesIn number line a (a.addReading number reading) := by
  cases reading with
  | blank => exact .blank (readLine_eq_blank_iff.1 hread) rfl rfl rfl
  | instruction i =>
    obtain ⟨hspells, hfree⟩ := spells_of_readLine hread
    exact .instruction i hspells hfree (a.program_addInstruction i) (a.get?_labels_addInstruction i)
      (a.diagnostics_addInstruction i)
  | defect d =>
    refine .report d (fun hnil ↦ ?_) (fun i hspells ↦ ?_) rfl rfl rfl
    · exact nomatch (readLine_eq_blank_iff.2 hnil).symm.trans hread
    · -- with a free label it would have been read as an instruction
      by_contra hbound
      refine nomatch (hspells.readLine_eq fun label hlabel ↦ ?_).symm.trans hread
      exact Bool.eq_false_iff.2 fun hcontains ↦ hbound ⟨label, hlabel, hcontains⟩

/-- The end of the assembling changes the log only. -/
theorem TakesIn.close {number : Nat} {line : String} {a b : Assembly}
    (h : TakesIn number line a b) : TakesIn number line a.close b.close := by
  cases h with
  | blank hline hprogram hlabels hdiagnostics =>
    exact .blank hline hprogram hlabels hdiagnostics
  | instruction i hline hfree hprogram hlabels hdiagnostics =>
    exact .instruction i hline hfree hprogram hlabels hdiagnostics
  | report d hline hspells hprogram hlabels hdiagnostics =>
    exact .report d hline hspells hprogram hlabels hdiagnostics

/-! ### What lines do -/

/-- **Lines are read to the end exactly when none of them moves an overlong number.** -/
theorem exists_addLines_iff (a : Assembly) (number : Nat) (lines : List String) :
    (∃ b, a.addLines number lines = (b, none)) ↔ ∀ line ∈ lines, ¬MovesOverlong line := by
  induction lines generalizing a number with
  | nil => simp [addLines]
  | cons line rest ih =>
    rw [addLines, List.forall_mem_cons]
    cases hread : readLine a.labels line with
    | ok reading =>
      have hline : ¬MovesOverlong line := by
        rintro ⟨count, hline⟩
        cases hread.symm.trans (readLine_eq_error_iff.2 ⟨count, hline, rfl⟩)
      exact (ih _ _).trans (and_iff_right hline).symm
    | error e =>
      obtain ⟨count, hline, -⟩ := readLine_eq_error_iff.1 hread
      refine ⟨?_, fun h ↦ (h.1 ⟨count, hline⟩).elim⟩
      rintro ⟨_, h⟩
      cases h

/-- What stops the reading of lines is a number with too many digits. -/
theorem exists_digits_of_addLines {a b : Assembly} {number : Nat} {lines : List String}
    {e : DigitError} (h : a.addLines number lines = (b, some e)) :
    ∃ line ∈ lines, ∃ count, IsOverlongMove count (strip line.toList) ∧ e = .reading count := by
  induction lines generalizing a number with
  | nil => cases h
  | cons line rest ih =>
    rw [addLines] at h
    cases hread : readLine a.labels line with
    | ok reading =>
      rw [hread] at h
      obtain ⟨other, hmem, hother⟩ := ih h
      exact ⟨other, List.mem_cons_of_mem line hmem, hother⟩
    | error e' =>
      rw [hread] at h
      obtain rfl : e' = e := Option.some.inj (congrArg Prod.snd h)
      exact ⟨line, List.mem_cons_self, readLine_eq_error_iff.1 hread⟩

/-- One more line is read after those before it. -/
theorem addLines_snoc_iff {lines : List String} {line : String} {b : Assembly} :
    addLines {} 1 (lines ++ [line]) = (b, none) ↔
      ∃ a reading, addLines {} 1 lines = (a, none) ∧ readLine a.labels line = .ok reading ∧
        b = a.addReading (lines.length + 1) reading := by
  rw [addLines_append, Nat.add_comm 1]
  rcases addLines {} 1 lines with ⟨a, - | e⟩
  · simp only [addLines]
    cases hread : readLine a.labels line with
    | ok reading => simp [hread, eq_comm]
    | error e => simp [hread]
  · simp

theorem exists_takesIn_of_addLines {lines : List String} {line : String} {b : Assembly}
    (h : addLines {} 1 (lines ++ [line]) = (b, none)) :
    ∃ a, addLines {} 1 lines = (a, none) ∧ TakesIn (lines.length + 1) line a b := by
  obtain ⟨a, reading, hadd, hread, rfl⟩ := addLines_snoc_iff.1 h
  exact ⟨a, hadd, takesIn_addReading hread _⟩

end Assembly

/-! ### Assembling and loading -/

/-- Lines without a break are assembled to the end exactly when all of them are read. -/
theorem assemble_eq_none_iff {lines : List String} {b : Assembly} :
    assemble ⟨lines, none⟩ = (b, none) ↔
      ∃ a, Assembly.addLines {} 1 lines = (a, none) ∧ a.close = b := by
  rw [assemble]
  rcases Assembly.addLines {} 1 lines with ⟨a, - | e⟩ <;> simp

theorem exists_assemble_iff (lines : List String) :
    (∃ a, assemble ⟨lines, none⟩ = (a, none)) ↔ ∀ line ∈ lines, ¬MovesOverlong line := by
  rw [← Assembly.exists_addLines_iff {} 1 lines]
  simp only [assemble_eq_none_iff]
  exact ⟨fun ⟨_, a, hadd, _⟩ ↦ ⟨a, hadd⟩, fun ⟨a, hadd⟩ ↦ ⟨a.close, a, hadd, rfl⟩⟩

theorem exists_load_iff (m : Machine) (lines : List String) :
    (∃ diagnostics, (m.load ⟨lines, none⟩).2 = .ok diagnostics) ↔
      ∀ line ∈ lines, ¬MovesOverlong line := by
  rw [← exists_assemble_iff, Machine.load]
  rcases assemble ⟨lines, none⟩ with ⟨a, - | f⟩ <;> simp

/-- What stops the assembling of lines without a break is a number with too many digits. -/
theorem exists_digits_of_assemble {lines : List String} {f : Failure}
    (h : (assemble ⟨lines, none⟩).2 = some f) :
    ∃ line ∈ lines, ∃ count, IsOverlongMove count (strip line.toList) ∧
      f = .digits (.reading count) := by
  rw [assemble] at h
  rcases hadd : Assembly.addLines {} 1 lines with ⟨a, - | e⟩
  · rw [hadd] at h
    cases h
  · rw [hadd] at h
    obtain ⟨line, hmem, count, hline, rfl⟩ := Assembly.exists_digits_of_addLines hadd
    exact ⟨line, hmem, count, hline, (Option.some.inj h).symm⟩

/-- **Assembling recovers from every line that does not move an overlong number, and from no
other.** Lines are assembled to their end, and loaded into any machine, exactly when none of them
moves a number with more digits than are read; nothing else stops them. Up to the first such line,
every line is blank, adds the instruction on it, or is reported once, under its own number. -/
theorem assemble_recovers (m : Machine) (lines : List String) :
    ((∃ a, assemble ⟨lines, none⟩ = (a, none)) ↔ ∀ line ∈ lines, ¬MovesOverlong line) ∧
    ((∃ diagnostics, (m.load ⟨lines, none⟩).2 = .ok diagnostics) ↔
      ∀ line ∈ lines, ¬MovesOverlong line) ∧
    (∀ f, (assemble ⟨lines, none⟩).2 = some f →
      ∃ line ∈ lines, ∃ count, IsOverlongMove count (strip line.toList) ∧
        f = .digits (.reading count)) ∧
    ∀ k line, lines[k]? = some line → (∀ other ∈ lines.take (k + 1), ¬MovesOverlong other) →
      ∃ a b, assemble ⟨lines.take k, none⟩ = (a, none) ∧
        assemble ⟨lines.take (k + 1), none⟩ = (b, none) ∧ a.TakesIn (k + 1) line b := by
  refine ⟨exists_assemble_iff lines, exists_load_iff m lines, fun f ↦ exists_digits_of_assemble, ?_⟩
  intro k line hk hlines
  obtain ⟨hlt, -⟩ := List.getElem?_eq_some_iff.1 hk
  have hsnoc : lines.take (k + 1) = lines.take k ++ [line] := by
    rw [List.take_add_one, hk, Option.toList_some]
  obtain ⟨b, hb⟩ := (Assembly.exists_addLines_iff {} 1 _).2 hlines
  obtain ⟨a, ha, htakes⟩ := Assembly.exists_takesIn_of_addLines (hsnoc ▸ hb)
  rw [List.length_take_of_le (Nat.le_of_lt hlt)] at htakes
  exact ⟨a.close, b.close, assemble_eq_none_iff.2 ⟨a, ha, rfl⟩, assemble_eq_none_iff.2 ⟨b, hb, rfl⟩,
    htakes.close⟩

/-! ### Zeros -/

/-- A move of zero, written with the given number of digits. -/
def zeroMove (count : Nat) : String := "mov EAX " ++ String.ofList (List.replicate count '0')

theorem toList_zeroMove (count : Nat) :
    (zeroMove count).toList = "mov".toList ++ (" ".toList ++ (Register.eax.name.toList ++
      (" ".toList ++ ([] ++ List.replicate count '0' ++ [])))) := by
  rw [zeroMove, String.toList_append, String.toList_ofList (l := List.replicate count '0'),
    List.append_nil, List.nil_append]
  rfl

theorem isOverlong_zeros {count : Nat} (h : digitLimit < count) :
    IsOverlong [] (List.replicate count '0') where
  isSign := ⟨_, .absent⟩
  isDigit c hc := by
    rw [List.eq_of_mem_replicate hc]
    decide
  nonempty := by
    rw [Ne, List.replicate_eq_nil_iff]
    omega
  lt_length := by rwa [List.length_replicate]

/-- Zero itself is moved in vain if it has too many digits. -/
theorem isOverlongMove_zeroMove {count : Nat} (h : digitLimit < count) :
    IsOverlongMove count (strip (zeroMove count).toList) := by
  have hzeros := isOverlong_zeros h
  have hspacing : IsSpacing " ".toList := isSpacing_space
  have hmove : StartsOverlongMove count (zeroMove count).toList := by
    have hmove := @StartsOverlongMove.intro .eax _ _ _ _ _ hspacing hspacing.isGap hzeros
      (nomatch ·) (startsWith_nil _)
    rwa [List.length_replicate, ← toList_zeroMove] at hmove
  have htrimmed : IsTrimmed (zeroMove count).toList := by
    have hsplit : (zeroMove count).toList =
        "mov EAX ".toList ++ ([] ++ List.replicate count '0') := by
      rw [toList_zeroMove, List.append_nil]
      rfl
    rw [toList_zeroMove] at hsplit ⊢
    exact isTrimmed_of_isSolid (isIdentifier_mnemonic .mov).isSolid hzeros.isSolid hsplit
  rw [htrimmed.strip_eq]
  exact .unlabelled hmove

theorem assemble_zeroMove {count : Nat} (h : digitLimit < count) (lines : List String) :
    assemble ⟨zeroMove count :: lines, none⟩ = ({}, some (.digits (.reading count))) := by
  have hread : readLine .empty (zeroMove count) = .error (.reading count) :=
    readLine_eq_error_iff.2 ⟨count, isOverlongMove_zeroMove h, rfl⟩
  rw [assemble, Assembly.addLines, hread]

/-- **There is no recovery from zeros**, though nothing is wrong with them but their number: the
line is not reported, and the next one is not read. -/
theorem assemble_stops_at_zeros :
    assemble ⟨[zeroMove 4301, "out EAX"], none⟩ = ({}, some (.digits (.reading 4301))) :=
  assemble_zeroMove (by decide) ["out EAX"]

end RegisterMachine
