import Mathlib.Data.List.Basic
import RegisterMachine.Proofs.Assembly.Places

/-!
# What a list of lines means

Assembling goes through the lines with a table of labels that grows on the way, so what becomes of
a line depends on the state it is met in. Here the same is said **without a state**: what becomes of
a line depends on the line itself, read as if no label were bound, and on the labels of the
well-formed lines before it. A line is

* *blank*, if it reads as blank for itself (`isBlankLine`);
* *accepted*, if it is well-formed and no earlier well-formed line carries its label (`accept?`);
* *reported* otherwise, with its own defect or, if it is well-formed, for its label (`report?`).

That lines assemble to just this is `assemble_meaning`. Its invariant is `Describes lines a`:
program, table and diagnostics of `a` are what is said of `lines`. One more line keeps it
(`Describes.snoc`), because a label is bound exactly when an earlier well-formed line carries it.
That an earlier line may have been refused does not matter: it was refused for a label that was
bound already.
-/

namespace RegisterMachine

open Source Text

/-! ### Lines for themselves -/

/-- The instruction that a line turned out to be. -/
def Source.Reading.instruction? : Reading → Option Instruction
  | .instruction i => some i
  | _ => none

/-- What was found wrong with a line. -/
def Source.Reading.defect? : Reading → Option Defect
  | .defect d => some d
  | _ => none

/-- What a line reads as while no label is bound, if it can be read. -/
def ownReading? (line : String) : Option Reading := (readLine .empty line).toOption

/-- The instruction of a well-formed line. -/
def instructionOf? (line : String) : Option Instruction := (ownReading? line).bind (·.instruction?)

/-- The label of a well-formed line. -/
def labelOf? (line : String) : Option String := (instructionOf? line).bind (·.label?)

/-- The defect that a line has for itself. -/
def defectOf? (line : String) : Option Defect := (ownReading? line).bind (·.defect?)

/-- Whether a line reads as blank. -/
def isBlankLine (line : String) : Bool := ownReading? line == some .blank

/-! ### Lines among others -/

/-- Whether a well-formed line carries the label. -/
def carries (label : String) (line : String) : Bool := labelOf? line == some label

/-- Whether a line is well-formed with a label that an earlier well-formed line carries. -/
def repeatsLabel (earlier : List String) (line : String) : Bool :=
  (labelOf? line).any fun label ↦ earlier.any (carries label)

/-- The instruction of a line that is accepted after earlier lines. -/
def accept? (earlier : List String) (line : String) : Option Instruction :=
  if repeatsLabel earlier line then none else instructionOf? line

/-- The diagnostic for a line after earlier lines. -/
def report? (earlier : List String) (line : String) : Option Diagnostic :=
  (if repeatsLabel earlier line then (labelOf? line).map .duplicateLabel else defectOf? line).map
    fun d ↦ ⟨earlier.length + 1, d⟩

/-- What the lines give in their order, each in view of those before it. -/
def inTurn {α : Type} (f : List String → String → Option α) (lines : List String) : List α :=
  lines.zipIdx.filterMap fun (line, k) ↦ f (lines.take k) line

/-- The instructions of the accepted lines. -/
def accepted (lines : List String) : List Instruction := inTurn accept? lines

/-- The diagnostics for the lines that are neither blank nor accepted. -/
def reports (lines : List String) : List Diagnostic := inTurn report? lines

/-- The number of lines accepted before the first well-formed line that carries the label. -/
def placeOf? (lines : List String) (label : String) : Option Int :=
  (lines.findIdx? (carries label)).map fun k ↦ ((accepted (lines.take k)).length : Int)

/-! ### One more line -/

theorem inTurn_snoc {α : Type} (f : List String → String → Option α) (lines : List String)
    (line : String) : inTurn f (lines ++ [line]) = inTurn f lines ++ (f lines line).toList := by
  have hearlier : lines.zipIdx.filterMap (fun x ↦ f ((lines ++ [line]).take x.2) x.1) =
      inTurn f lines := by
    refine List.filterMap_congr fun ⟨other, k⟩ hmem ↦ ?_
    obtain ⟨hlt, -⟩ := List.getElem?_eq_some_iff.1 (List.mem_zipIdx_iff_getElem?.1 hmem)
    rw [List.take_append_of_le_length (Nat.le_of_lt hlt)]
  rw [inTurn, List.zipIdx_append, List.filterMap_append, List.zipIdx_singleton, hearlier]
  cases hline : f lines line <;> simp [hline]

theorem mem_inTurn {α : Type} {f : List String → String → Option α} {lines : List String} {x : α} :
    x ∈ inTurn f lines ↔
      ∃ k line, lines[k]? = some line ∧ f (lines.take k) line = some x := by
  simp only [inTurn, List.mem_filterMap, List.mem_zipIdx_iff_getElem?, Prod.exists]
  exact exists_comm

/-- A label keeps the place it has, and gets the next place with the first line that carries it. -/
theorem placeOf?_snoc (lines : List String) (line label : String) :
    placeOf? (lines ++ [line]) label =
      (placeOf? lines label).or
        (if labelOf? line = some label then some ((accepted lines).length : Int) else none) := by
  rw [placeOf?, placeOf?, List.findIdx?_append, List.findIdx?_singleton]
  cases hfind : lines.findIdx? (carries label) with
  | some k =>
    obtain ⟨hlt, -⟩ := List.findIdx?_eq_some_iff_getElem.1 hfind
    simp [List.take_append_of_le_length (Nat.le_of_lt hlt)]
  | none => by_cases hlabel : labelOf? line = some label <;> simp [carries, hlabel]

theorem isSome_placeOf? (lines : List String) (label : String) :
    (placeOf? lines label).isSome = lines.any (carries label) := by
  rw [placeOf?, Option.isSome_map, List.findIdx?_isSome]

/-! ### What a label table adds to the reading of a line -/

/-- **The table only decides about the label** of a line that is well-formed for itself. -/
theorem readLine_eq_of_empty (labels : LabelTable) (line : String) :
    readLine labels line = match readLine .empty line with
      | .ok (.instruction i) => .ok (checkLabel labels i)
      | reading => reading := by
  rw [readLine, readLine]
  generalize strip line.toList = text
  by_cases hnil : text.isEmpty = true
  · rw [if_pos hnil, if_pos hnil]
  · rw [if_neg hnil, if_neg hnil]
    rcases dropLabelWord (words text) with - | ⟨word, others⟩
    · rfl
    · cases hop : Opcode.ofMnemonic? (String.ofList word) with
      | none => simp only [hop]
      | some op =>
        simp only [hop, readWith]
        rcases readStatement op (expandTabs text) with (_ | _) | statement
        · rfl
        · rfl
        · simp only [checkLabel_empty]

theorem ownReading?_of_ok {line : String} {reading : Reading}
    (h : readLine .empty line = .ok reading) : ownReading? line = some reading := by
  rw [ownReading?, h]
  rfl

/-- The reading of a line is what is said of it after earlier lines. -/
structure Agrees (earlier : List String) (line : String) (reading : Reading) : Prop where
  accept : accept? earlier line = reading.instruction?
  report : report? earlier line = reading.defect?.map fun d ↦ ⟨earlier.length + 1, d⟩
  blank : isBlankLine line = (reading == .blank)

/-- A line whose label is new reads as it does for itself. -/
theorem agrees_of_ownReading? {earlier : List String} {line : String} {reading : Reading}
    (hown : ownReading? line = some reading) (hnew : repeatsLabel earlier line = false) :
    Agrees earlier line reading where
  accept := by
    rw [accept?, if_neg (by simp [hnew]), instructionOf?, hown]
    rfl
  report := by
    rw [report?, if_neg (by simp [hnew]), defectOf?, hown]
    rfl
  blank := by
    rw [isBlankLine, hown]
    rfl

/-- A well-formed line whose label is not new is reported for it. -/
theorem agrees_duplicateLabel {earlier : List String} {line label : String} {i : Instruction}
    (hown : ownReading? line = some (.instruction i)) (hlabel : labelOf? line = some label)
    (hrepeats : repeatsLabel earlier line = true) :
    Agrees earlier line (.defect (.duplicateLabel label)) where
  accept := by
    rw [accept?, if_pos hrepeats]
    rfl
  report := by
    rw [report?, if_pos hrepeats, hlabel]
    rfl
  blank := by
    rw [isBlankLine, hown]
    rfl

/-- **A line reads as what is said of it**, if the labels bound are those of the earlier
lines. -/
theorem agrees_of_readLine {earlier : List String} {labels : LabelTable}
    (hlabels : ∀ label, labels.contains label = earlier.any (carries label)) {line : String}
    {reading : Reading} (hread : readLine labels line = .ok reading) :
    Agrees earlier line reading := by
  rw [readLine_eq_of_empty] at hread
  split at hread
  next i hread' =>
    obtain rfl := Except.ok.inj hread
    have hown := ownReading?_of_ok hread'
    have hlabelOf : labelOf? line = i.label? := by
      rw [labelOf?, instructionOf?, hown]
      rfl
    cases hlabel : i.label? with
    | none =>
      rw [checkLabel_of_none hlabel]
      exact agrees_of_ownReading? hown (by simp [repeatsLabel, hlabelOf, hlabel])
    | some label =>
      have hrepeats : repeatsLabel earlier line = earlier.any (carries label) := by
        simp [repeatsLabel, hlabelOf, hlabel]
      rw [checkLabel_of_some hlabel, hlabels, ← hrepeats]
      split
      next hbound => exact agrees_duplicateLabel hown (hlabelOf.trans hlabel) hbound
      next hfree => exact agrees_of_ownReading? hown (Bool.eq_false_iff.2 hfree)
  next hother =>
    -- not well-formed, so there is no label that could be carried again
    have hown := ownReading?_of_ok hread
    have hnone : instructionOf? line = none := by
      rw [instructionOf?, hown]
      cases reading with
      | blank => rfl
      | instruction i => exact absurd hread (hother i)
      | defect d => rfl
    exact agrees_of_ownReading? hown (by simp [repeatsLabel, labelOf?, hnone])

namespace Agrees

variable {earlier : List String} {line : String} {reading : Reading}

/-- A line is reported exactly when it is neither blank nor accepted. -/
theorem isSome_report?_iff (h : Agrees earlier line reading) :
    (report? earlier line).isSome = true ↔
      isBlankLine line = false ∧ accept? earlier line = none := by
  rw [h.report, h.blank, h.accept]
  cases reading <;> simp [Reading.instruction?, Reading.defect?]

/-- Every line is blank, accepted or reported, and only one of these. -/
theorem length_add_length (h : Agrees earlier line reading) :
    (accept? earlier line).toList.length + (report? earlier line).toList.length +
      (if isBlankLine line = true then 1 else 0) = 1 := by
  rw [h.report, h.blank, h.accept]
  cases reading <;> rfl

end Agrees

/-! ### What a reading adds -/

namespace Assembly

theorem toList_program_addReading (a : Assembly) (number : Nat) (reading : Reading) :
    (a.addReading number reading).program.toList =
      a.program.toList ++ reading.instruction?.toList := by
  cases reading <;> simp [addReading, addDiagnostic, Reading.instruction?]

theorem toList_diagnostics_addReading (a : Assembly) (number : Nat) (reading : Reading) :
    (a.addReading number reading).diagnostics.toList =
      a.diagnostics.toList ++ (reading.defect?.map fun d ↦ ⟨number, d⟩).toList := by
  cases reading <;> simp [addReading, addDiagnostic, Reading.defect?]

theorem get?_labels_addReading (a : Assembly) (number : Nat) (reading : Reading) (name : String) :
    (a.addReading number reading).labels.get? name =
      if reading.instruction?.bind (·.label?) = some name then some (a.program.size : Int)
      else a.labels.get? name := by
  cases reading with
  | blank => rfl
  | instruction i => exact a.get?_labels_addInstruction i name
  | defect d => rfl

end Assembly

/-! ### The loop keeps to the description -/

theorem labelOf?_of_accept? {earlier : List String} {line : String} {i : Instruction}
    (h : accept? earlier line = some i) : labelOf? line = i.label? := by
  rw [accept?] at h
  split at h
  · exact nomatch h
  · rw [labelOf?, h]
    rfl

/-- The label of an accepted line is new. -/
theorem any_carries_of_accept? {earlier : List String} {line label : String} {i : Instruction}
    (h : accept? earlier line = some i) (hlabel : labelOf? line = some label) :
    earlier.any (carries label) = false := by
  rw [accept?] at h
  split at h
  next => exact nomatch h
  next hnew => simpa [repeatsLabel, hlabel] using hnew

/-- The label of a line that is not accepted is not new. -/
theorem any_carries_of_accept?_eq_none {earlier : List String} {line label : String}
    (h : accept? earlier line = none) (hlabel : labelOf? line = some label) :
    earlier.any (carries label) = true := by
  rw [accept?] at h
  split at h
  next hrepeats => simpa [repeatsLabel, hlabel] using hrepeats
  next => simp [labelOf?, h] at hlabel

/-- The place of a label after one more line, told by whether the line is accepted. -/
theorem placeOf?_snoc_eq (lines : List String) (line label : String) :
    placeOf? (lines ++ [line]) label =
      if (accept? lines line).bind (·.label?) = some label then some ((accepted lines).length : Int)
      else placeOf? lines label := by
  have hsome := isSome_placeOf? lines label
  rw [placeOf?_snoc]
  cases haccept : accept? lines line with
  | some i =>
    rw [labelOf?_of_accept? haccept, Option.bind_some]
    split
    next hlabel =>
      -- accepted with this label, which therefore has no place yet
      rw [any_carries_of_accept? haccept ((labelOf?_of_accept? haccept).trans hlabel)] at hsome
      rw [Option.isNone_iff_eq_none.1 (Option.isSome_eq_false_iff.1 hsome), Option.none_or]
    next => exact Option.or_none
  | none =>
    have hne : (none : Option String) ≠ some label := nofun
    rw [Option.bind_none, if_neg hne]
    split
    next hlabel =>
      -- not accepted because of this label, which therefore has its place already
      rw [any_carries_of_accept?_eq_none haccept hlabel] at hsome
      exact Option.or_of_isSome hsome
    next => exact Option.or_none

/-- What was assembled is what is said of the lines. -/
structure Describes (lines : List String) (a : Assembly) : Prop where
  program : a.program.toList = accepted lines
  labels : ∀ label, a.labels.get? label = placeOf? lines label
  diagnostics : a.diagnostics.toList = reports lines
  /-- Every line could be read. -/
  agrees : ∀ k line, lines[k]? = some line → ∃ reading, Agrees (lines.take k) line reading
  count : (accepted lines).length + (reports lines).length + lines.countP isBlankLine = lines.length

namespace Describes

variable {lines : List String} {a : Assembly}

theorem empty : Describes [] {} where
  program := rfl
  labels _ := rfl
  diagnostics := rfl
  agrees _ _ h := nomatch h
  count := rfl

/-- **A label is bound exactly when an earlier well-formed line carries it.** -/
theorem contains_eq (h : Describes lines a) (label : String) :
    a.labels.contains label = lines.any (carries label) := by
  rw [LabelTable.contains, h.labels, isSome_placeOf?]

/-- **One more line keeps to the description.** -/
theorem snoc (h : Describes lines a) {line : String} {reading : Reading}
    (hread : readLine a.labels line = .ok reading) :
    Describes (lines ++ [line]) (a.addReading (lines.length + 1) reading) := by
  have hagrees := agrees_of_readLine h.contains_eq hread
  have haccepted : accepted (lines ++ [line]) = accepted lines ++ (accept? lines line).toList :=
    inTurn_snoc accept? lines line
  have hreports : reports (lines ++ [line]) = reports lines ++ (report? lines line).toList :=
    inTurn_snoc report? lines line
  refine ⟨?_, fun label ↦ ?_, ?_, fun k other hk ↦ ?_, ?_⟩
  · rw [a.toList_program_addReading, h.program, ← hagrees.accept, haccepted]
  · have hsize : a.program.size = (accepted lines).length := by
      rw [← h.program, Array.length_toList]
    rw [a.get?_labels_addReading, placeOf?_snoc_eq, hagrees.accept, h.labels, hsize]
  · rw [a.toList_diagnostics_addReading, h.diagnostics, Int.natCast_add_one, ← hagrees.report,
      hreports]
  · rcases Nat.lt_trichotomy k lines.length with hlt | rfl | hgt
    · rw [List.getElem?_append_left hlt] at hk
      rw [List.take_append_of_le_length (Nat.le_of_lt hlt)]
      exact h.agrees k other hk
    · rw [List.getElem?_concat_length] at hk
      obtain rfl := Option.some.inj hk
      rw [List.take_left]
      exact ⟨reading, hagrees⟩
    · have hnone : (lines ++ [line])[k]? = none := List.getElem?_eq_none (by simp; omega)
      simp [hnone] at hk
  · have hcount := h.count
    have hline := hagrees.length_add_length
    rw [haccepted, hreports, List.countP_append, List.countP_singleton]
    simp only [List.length_append, List.length_singleton]
    omega

/-- **What lines assemble to is what is said of them**, if all of them can be read. -/
theorem of_addLines (h : Assembly.addLines {} 1 lines = (a, none)) : Describes lines a := by
  induction lines using List.reverseRecOn generalizing a with
  | nil =>
    obtain rfl := congrArg Prod.fst h
    exact .empty
  | append_singleton lines line ih =>
    rw [Assembly.addLines_append] at h
    rcases hlines : Assembly.addLines {} 1 lines with ⟨b, - | e⟩
    · have hb := ih hlines
      simp only [hlines, Assembly.addLines] at h
      cases hread : readLine b.labels line with
      | error e => simp [hread] at h
      | ok reading =>
        simp only [hread, Prod.mk.injEq, and_true] at h
        rw [← h, Nat.add_comm]
        exact hb.snoc hread
    · simp [hlines] at h

end Describes

/-! ### The order of the diagnostics -/

theorem line_of_report? {earlier : List String} {line : String} {d : Diagnostic}
    (h : report? earlier line = some d) : d.line = earlier.length + 1 := by
  obtain ⟨defect, -, rfl⟩ := Option.map_eq_some_iff.1 h
  rfl

/-- A diagnostic bears the number of its line. -/
theorem line_of_report?_take {lines : List String} {k : Nat} {line : String} {d : Diagnostic}
    (hk : lines[k]? = some line) (h : report? (lines.take k) line = some d) : d.line = k + 1 := by
  obtain ⟨hlt, -⟩ := List.getElem?_eq_some_iff.1 hk
  rw [line_of_report? h, List.length_take_of_le (Nat.le_of_lt hlt)]

theorem pairwise_reports (lines : List String) : (reports lines).Pairwise (·.line < ·.line) := by
  induction lines using List.reverseRecOn with
  | nil => exact .nil
  | append_singleton lines line ih =>
    rw [reports, inTurn_snoc]
    refine List.pairwise_append.2 ⟨ih, by cases report? lines line <;> simp, fun d hd d' hd' ↦ ?_⟩
    obtain ⟨k, other, hk, hreport⟩ := mem_inTurn.1 hd
    obtain ⟨hlt, -⟩ := List.getElem?_eq_some_iff.1 hk
    rw [line_of_report?_take hk hreport, line_of_report? (Option.mem_toList.1 hd')]
    omega

/-- **What a list of lines means.** If a list of lines is assembled to its end, then the program
consists of the instructions of the accepted lines; a label is bound if a well-formed line carries
it, to the number of lines accepted before the first that does; and the diagnostics are those of
the lines that are neither blank nor accepted, one for each, in the order of the lines. So every
line is an instruction, a diagnostic or blank. -/
theorem assemble_meaning {lines : List String} {a : Assembly}
    (h : assemble ⟨lines, none⟩ = (a, none)) :
    a.program.toList = accepted lines ∧
    (∀ label, a.labels.get? label = placeOf? lines label) ∧
    a.diagnostics.toList = reports lines ∧
    a.diagnostics.toList.Pairwise (·.line < ·.line) ∧
    (∀ (k : Nat) (line : String), lines[k]? = some line →
      ((∃ d ∈ a.diagnostics.toList, d.line = k + 1) ↔
        isBlankLine line = false ∧ accept? (lines.take k) line = none)) ∧
    a.program.size + a.diagnostics.size + lines.countP isBlankLine = lines.length := by
  have hdescribes : Describes lines a := by
    rw [assemble] at h
    rcases hadd : Assembly.addLines {} 1 lines with ⟨b, - | e⟩
    · simp only [hadd, Prod.mk.injEq, and_true] at h
      obtain ⟨hprogram, hlabels, hdiagnostics, hagrees, hcount⟩ := Describes.of_addLines hadd
      subst h
      exact ⟨hprogram, hlabels, hdiagnostics, hagrees, hcount⟩
    · simp [hadd] at h
  refine ⟨hdescribes.program, hdescribes.labels, hdescribes.diagnostics, ?_, fun k line hk ↦ ?_, ?_⟩
  · rw [hdescribes.diagnostics]
    exact pairwise_reports lines
  · obtain ⟨reading, hagrees⟩ := hdescribes.agrees k line hk
    rw [← hagrees.isSome_report?_iff, hdescribes.diagnostics, Option.isSome_iff_exists]
    constructor
    · rintro ⟨d, hd, hline⟩
      obtain ⟨j, other, hj, hreport⟩ := mem_inTurn.1 hd
      have hline' := line_of_report?_take hj hreport
      obtain rfl : j = k := by omega
      obtain rfl := Option.some.inj (hj.symm.trans hk)
      exact ⟨d, hreport⟩
    · rintro ⟨d, hreport⟩
      exact ⟨d, mem_inTurn.2 ⟨k, line, hk, hreport⟩, line_of_report?_take hk hreport⟩
  · rw [← Array.length_toList, ← Array.length_toList, hdescribes.program, hdescribes.diagnostics]
    exact hdescribes.count

/-- A label that is carried again, on a line that counts for nothing. -/
theorem assemble_meaning_of_repeated_label :
    ∃ a, assemble ⟨["f: mov EAX 1", "", "f: mov EAX 2", "out EAX"], none⟩ = (a, none) ∧
      a.program.toList = [⟨some "f", .mov .eax 1⟩, ⟨none, .out .eax⟩] ∧
      a.labels.get? "f" = some 0 ∧ a.diagnostics.toList = [⟨3, .duplicateLabel "f"⟩] := by
  have hassemble : assemble ⟨["f: mov EAX 1", "", "f: mov EAX 2", "out EAX"], none⟩ = (_, none) :=
    Prod.ext rfl (by decide +kernel)
  obtain ⟨hprogram, hlabels, hdiagnostics, -⟩ := assemble_meaning hassemble
  refine ⟨_, hassemble, hprogram.trans ?_, (hlabels "f").trans ?_, hdiagnostics.trans ?_⟩
  all_goals decide +kernel

end RegisterMachine
