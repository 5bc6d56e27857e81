import RegisterMachine.Command.Listing
import RegisterMachine.Proofs.Assembly.Composition
import RegisterMachine.Proofs.Assembly.RoundTrip
import RegisterMachine.Proofs.Command.ExitCode
import RegisterMachine.Proofs.Machine.Determination

/-!
# Listing a program checks it

Two commands read a program: one lists it, the other runs it, and refuses it for its defects if it
is told to be strict. **Each tells what the other finds** (`listing_checks_strict_run`): they have
the same verdict, they report the same defects in the same order, and what is listed is what is
loaded, also where it is refused.

The reports agree up to one thing. A defect is reported by a message of the one command and by a log
record of the other, and a message loses the control sequences that it quotes
(`listing_drops_controls`). A report quotes nothing but a word of its line, so without an escape in
the source the reports are equal.
-/

namespace RegisterMachine

open Source Text Toml

/-! ### What a report quotes -/

/-- No control sequence starts in the text. -/
def IsEscapeFree (text : String) : Prop := '\x1b' ∉ text.toList

instance (text : String) : Decidable (IsEscapeFree text) :=
  inferInstanceAs (Decidable ('\x1b' ∉ text.toList))

namespace IsEscapeFree

theorem append {text more : String} (h : IsEscapeFree text) (hmore : IsEscapeFree more) :
    IsEscapeFree (text ++ more) := by
  rw [IsEscapeFree, String.toList_append, List.mem_append, not_or]
  exact ⟨h, hmore⟩

theorem repr (n : Nat) : IsEscapeFree n.repr :=
  fun hmem ↦ absurd (isDigit_of_mem_repr hmem) (by decide)

theorem decimal (n : Int) : IsEscapeFree (Text.decimal n) :=
  fun hmem ↦ absurd (mem_decimal hmem) (by decide)

theorem identifier {name : String} (h : IsIdentifier name.toList) : IsEscapeFree name :=
  fun hmem ↦ absurd (h.isIdentChar _ hmem) (by decide)

theorem mnemonic (op : Opcode) : IsEscapeFree op.mnemonic := .identifier (isIdentifier_mnemonic op)

/-- What was looked for is worded without a word of the line. -/
theorem expectation (what : Expectation) : IsEscapeFree what.message := by
  cases what with
  | keyword op => exact .append (.append (by decide) (.mnemonic op)) (by decide)
  | keywordEnd op => exact .append (.append (by decide) (.mnemonic op)) (by decide)
  | _ => decide

theorem complaint (c : Complaint) : IsEscapeFree c.message := by
  cases c with
  | expected what => exact .expectation what
  | outOfRange value => exact .append (.append (by decide) (.decimal value)) (by decide)

/-- A word of a line has what the line has. -/
theorem word {line : String} {word : List Char} (h : IsEscapeFree line)
    (hword : word ∈ words (strip line.toList)) : IsEscapeFree (String.ofList word) := by
  rw [IsEscapeFree, String.toList_ofList]
  intro hmem
  have hstrip : '\x1b' ∈ strip line.toList :=
    (flatten_words_sublist _).subset (List.mem_flatten.2 ⟨word, hword, hmem⟩)
  obtain ⟨front, back, -, -, hline⟩ := exists_append_strip line.toList
  rw [IsEscapeFree, hline] at h
  exact h (by simp [hstrip])

end IsEscapeFree

theorem dropLabelWord_sublist (tokens : List (List Char)) :
    (dropLabelWord tokens).Sublist tokens := by
  cases tokens with
  | nil => exact .slnil
  | cons token others =>
    rw [dropLabelWord]
    split
    · exact List.sublist_cons_self token others
    · exact List.Sublist.refl _

theorem defectOf?_eq_some_iff {line : String} {d : Defect} :
    defectOf? line = some d ↔ readLine .empty line = .ok (.defect d) := by
  rw [defectOf?, ownReading?]
  rcases readLine .empty line with e | (_ | i | d) <;> simp [Except.toOption, Reading.defect?]

/-- Where the scanners stopped is told without a word of the line. -/
theorem IsEscapeFree.reason_of_readWith {op : Opcode} {text : List Char} {d : Defect}
    (hread : readWith op .empty text = .ok (.defect d)) : IsEscapeFree d.reason := by
  rw [readWith] at hread
  cases hstatement : readStatement op text with
  | ok statement => simp [hstatement, checkLabel_empty] at hread
  | error stop =>
    cases stop with
    | digits e => simp [hstatement] at hread
    | mismatch complaint left =>
      obtain rfl : .unreadable complaint _ = d := by simpa [hstatement] using hread
      exact .append (.append (.append (.complaint complaint) (by decide)) (.repr _)) (by decide)

/-- What is wrong with a line for itself quotes nothing but a word of it. -/
theorem IsEscapeFree.reason_of_readLine {line : String} {d : Defect} (h : IsEscapeFree line)
    (hread : readLine .empty line = .ok (.defect d)) : IsEscapeFree d.reason := by
  rw [readLine] at hread
  by_cases hnil : (strip line.toList).isEmpty = true
  · simp [hnil] at hread
  rw [if_neg hnil] at hread
  cases hwords : dropLabelWord (words (strip line.toList)) with
  | nil =>
    obtain rfl : .missingOpcode = d := by simpa [hwords] using hread
    decide
  | cons word others =>
    cases hop : Opcode.ofMnemonic? (String.ofList word) with
    | none =>
      obtain rfl : .unknownOpcode (String.ofList word) = d := by simpa [hwords, hop] using hread
      have hword : word ∈ words (strip line.toList) :=
        (dropLabelWord_sublist _).subset (hwords ▸ List.mem_cons_self)
      exact .append (by decide) (h.word hword)
    | some op =>
      simp only [hwords, hop] at hread
      exact .reason_of_readWith hread

/-- **A report quotes nothing but a word of its line.** -/
theorem IsEscapeFree.message_of_report? {earlier : List String} {line : String} {d : Diagnostic}
    (h : IsEscapeFree line) (hreport : report? earlier line = some d) : IsEscapeFree d.message := by
  obtain ⟨defect, hdefect, rfl⟩ := Option.map_eq_some_iff.1 hreport
  have hreason : IsEscapeFree defect.reason := by
    split at hdefect
    · obtain ⟨label, hlabel, rfl⟩ := Option.map_eq_some_iff.1 hdefect
      obtain ⟨i, hi, hlabel⟩ := Option.bind_eq_some_iff.1 hlabel
      obtain ⟨hspells, -⟩ := spells_of_readLine (instructionOf?_eq_some_iff.1 hi)
      exact .append (by decide) (.identifier (hspells.isWellFormed.label label hlabel))
    · exact h.reason_of_readLine (defectOf?_eq_some_iff.1 hdefect)
  exact .append (.append (.append (by decide) (.decimal _)) (by decide)) hreason

/-- The diagnostics of lines without an escape have none. -/
theorem escapeFree_of_assemble {lines : List String} {a : Assembly}
    (h : assemble ⟨lines, none⟩ = (a, none)) (hlines : ∀ line ∈ lines, IsEscapeFree line) :
    ∀ d ∈ a.diagnostics, IsEscapeFree d.message := by
  intro d hd
  obtain ⟨b, hadd, rfl⟩ := assemble_eq_none_iff.1 h
  have hmem : d ∈ reports lines := by
    rw [← (Describes.of_addLines hadd).diagnostics]
    exact Array.mem_toList_iff.2 hd
  obtain ⟨k, line, hk, hreport⟩ := mem_inTurn.1 hmem
  exact (hlines line (List.mem_of_getElem? hk)).message_of_report? hreport

/-- No record is an error. -/
def Log.IsErrorFree (log : Log) : Prop := ∀ r ∈ log, r.level ≠ .error

theorem Log.IsErrorFree.push {log : Log} {r : Record} (h : log.IsErrorFree)
    (hr : r.level ≠ .error) : Log.IsErrorFree (log.push r) := by
  intro r' hr'
  rcases Array.mem_push.1 hr' with hr' | rfl
  · exact h r' hr'
  · exact hr

/-- No line is logged as an error: a defective one is passed over with a warning. -/
theorem isErrorFree_of_assemble {lines : List String} {a : Assembly}
    (h : assemble ⟨lines, none⟩ = (a, none)) : a.log.IsErrorFree := by
  obtain ⟨b, hadd, rfl⟩ := assemble_eq_none_iff.1 h
  have hlines := Assembly.addLines_induction (P := fun a ↦ a.log.IsErrorFree)
    (fun {a line i} ha _ ↦ ?_) (fun d ha ↦ ha.push (by simp)) (a := {}) (by simp [Log.IsErrorFree])
    1 lines
  · rw [hadd] at hlines
    exact hlines.push (by simp)
  · rw [Assembly.addInstruction]
    split
    · exact ha
    · exact ha.push (by simp)

namespace Command

/-! ### What stands on the error output -/

/-- A message of a command, as it is written. -/
def ErrorLine.message? : ErrorLine → Option String
  | record _ => none
  | message text => some (message text).write

/-- What an error record says. -/
def ErrorLine.errorRecord? : ErrorLine → Option String
  | record r => if r.level = .error then some r.message else none
  | message _ => none

/-- The messages of a command on its error output, as they are written. -/
def Result.messages (r : Result) : List String := r.errors.toList.filterMap (·.message?)

/-- What the error records on the error output of a command say. -/
def Result.errorRecords (r : Result) : List String := r.errors.toList.filterMap (·.errorRecord?)

theorem filterMap_message?_shown (threshold : Level) (log : Log) :
    (shown threshold log).toList.filterMap (·.message?) = [] := by
  simp [shown, ErrorLine.message?]

/-- Error records are shown whatever the threshold. -/
theorem filterMap_errorRecord?_shown (threshold : Level) (log : Log) :
    (shown threshold log).toList.filterMap (·.errorRecord?) =
      (log.toList.filter (·.level = .error)).map (·.message) := by
  have hthreshold : threshold ≤ .error := by cases threshold <;> decide
  rw [shown, Log.atLeast, Array.toList_map, Array.toList_filter, List.filterMap_map,
    List.filterMap_filter, ← List.filterMap_eq_filter, List.map_filterMap]
  refine List.filterMap_congr fun r _ ↦ ?_
  by_cases h : r.level = .error <;> simp [h, hthreshold, ErrorLine.errorRecord?]

/-- A log without errors shows none. -/
theorem filterMap_errorRecord?_shown_eq_nil (threshold : Level) {log : Log} (h : log.IsErrorFree) :
    (shown threshold log).toList.filterMap (·.errorRecord?) = [] := by
  rw [filterMap_errorRecord?_shown]
  simpa [Log.IsErrorFree] using h

/-! ### Arguments -/

/-- An argument that is no option is positional. -/
theorem readArguments_of_not_isOption {α : Type} (specs : List (OptionSpec α)) {argument : String}
    (h : isOption argument.toList = false) :
    readArguments specs none [argument] = .ok { positional := [argument] } := by
  have hne : argument ≠ "--" := by
    rintro rfl
    exact nomatch h
  rw [readArguments, if_neg hne, if_neg (by simp [h]), readArguments]
  rfl

/-- An option that is one flag has its meaning, whatever comes after it. -/
theorem readArguments_cons_flag {α : Type} {specs : List (OptionSpec α)} {option : String}
    {meaning : α} (hne : option ≠ "--") (h : isOption option.toList = true)
    (hread : readOption specs option.toList = .ok ([meaning], none)) (arguments : List String) :
    readArguments specs none (option :: arguments) =
      (readArguments specs none arguments).map fun others ↦
        { others with options := meaning :: others.options } := by
  rw [readArguments, if_neg hne, if_pos h, hread]
  rfl

theorem Listing.readOrder_of_not_isOption {source : String} (h : isOption source.toList = false) :
    readOrder [source] = .ok ⟨false, .ofString source⟩ := by
  rw [readOrder, readArguments_of_not_isOption specs h]
  rfl

theorem Run.readOrder_strict {source : String} (h : isOption source.toList = false) :
    readOrder ["--strict", source] = .ok { strict? := some true, program := .ofString source } := by
  have hread : readArguments specs none ["--strict", source] =
      .ok { options := [.strict true], positional := [source] } := by
    have hoption : readOption specs "--strict".toList = .ok ([.strict true], none) := rfl
    rw [readArguments_cons_flag (by decide) (by decide) hoption,
      readArguments_of_not_isOption specs h]
    rfl
  rw [readOrder, hread]
  rfl

/-! ### What is listed -/

namespace Listing

/-- Texts with the column that tells their places. -/
def numbered (texts : List String) : List String :=
  texts.zipIdx.map fun (text, n) ↦ indexColumn n ++ " " ++ text

theorem instructionLines_eq {program : Array Instruction} {texts : List String}
    (h : program.toList.mapM Instruction.write = .ok texts) :
    instructionLines program = .ok (numbered texts) := by
  rw [instructionLines, numbered]
  generalize program.toList = instructions at h
  generalize 0 = n
  induction instructions generalizing texts n with
  | nil =>
    obtain rfl := Except.ok.inj h
    rfl
  | cons i rest ih =>
    obtain ⟨text, others, hwrite, hothers, rfl⟩ := exists_of_mapM_cons h
    rw [List.zipIdx_cons, List.zipIdx_cons, List.mapM_cons, ih hothers]
    simp only [hwrite]
    rfl

/-- **What the listing shows and reports**, if all there is to list can be written. -/
theorem command_eq {files : Files} {source : String} {lines texts : List String} {a : Assembly}
    {labels : String} (hsource : isOption source.toList = false)
    (hread : readSource files (.ofString source) = .ok lines)
    (hassemble : assemble ⟨lines, none⟩ = (a, none))
    (htexts : a.program.toList.mapM Instruction.write = .ok texts)
    (hlabels : a.labels.write = .ok labels) :
    let r := command files [source]
    r.exit = (if a.diagnostics.isEmpty then .done else .defective) ∧
      r.output.toList = numbered texts ++ ["Labels: " ++ labels] ∧
      r.messages = a.diagnostics.toList.map fun d ↦ withoutControls d.message := by
  have hlisted : ∀ log, listingLines { a with log } =
      .ok (numbered texts ++ ["Labels: " ++ labels]) := by
    intro log
    simp only [listingLines, instructionLines_eq htexts, labelLine, hlabels]
    rfl
  intro r
  have hr : r = list files ⟨false, .ofString source⟩ := by
    simp only [r, command, readOrder_of_not_isOption hsource]
  simp only [list, assembleFile, hread, hassemble, hlisted] at hr
  rw [hr]
  refine ⟨rfl, rfl, ?_⟩
  rw [Result.messages, Array.toList_append, List.filterMap_append, filterMap_message?_shown,
    List.nil_append, Array.toList_map, List.filterMap_map]
  show List.filterMap (some ∘ fun d : Diagnostic ↦ withoutControls d.message) _ = _
  rw [List.filterMap_eq_map]

end Listing

/-! ### What is run -/

/-- A run leaves the program and the labels alone. -/
theorem Execution.leaves_run (rounds : Nat) (m : Machine) :
    (run rounds m).machine.program = m.program ∧ (run rounds m).machine.labels = m.labels := by
  have hleaves := (m.note (.info "Beginning program execution.")).leaves_execute rounds
  rw [run]
  cases hrun : (m.note (.info "Beginning program execution.")).execute rounds with
  | running n =>
    rw [hrun] at hleaves
    exact ⟨hleaves.program, hleaves.labels⟩
  | ended n f? =>
    rw [hrun] at hleaves
    cases f? with
    | some f => exact ⟨hleaves.program, hleaves.labels⟩
    | none =>
      dsimp only [report]
      split <;> exact ⟨hleaves.program, hleaves.labels⟩

section

variable {sets : SetOrder} {files : Files} {source : String} {lines : List String} {a : Assembly}

/-- **However lines are executed, the machine has the program of the lines**, also if it refuses
it. -/
theorem execute_program (h : assemble ⟨lines, none⟩ = (a, none))
    (hlength : lines.length < digitBound) (rounds : Nat) (settings : Settings) :
    let m := (execute rounds settings .accepting ⟨lines, none⟩).machine
    m.program = a.program ∧ m.labels = a.labels := by
  obtain ⟨m, hquiet, -, -, hexecute⟩ := exists_execute_eq settings h hlength
  have hprogram : m.program = a.program := congrArg Machine.program hquiet
  have hlabels : m.labels = a.labels := congrArg Machine.labels hquiet
  simp only [hexecute]
  split
  · exact ⟨hprogram, hlabels⟩
  · rw [← hprogram, ← hlabels]
    exact Execution.leaves_run rounds m

/-- The last records of a refused run tell the defects as errors, and the refusal. -/
theorem Run.filterMap_errorRecord?_closing (threshold : Level) (program : Path)
    (diagnostics : Array Diagnostic) :
    (shown threshold (closing program (.rejected diagnostics)).1).toList.filterMap
      (·.errorRecord?) = diagnostics.toList.map (·.message) := by
  rw [filterMap_errorRecord?_shown, closing]
  simp [List.filter_map, Function.comp_def, Record.error]

/-- **A strict run reports the defects and does nothing else.** -/
theorem Run.exists_command_strict (hsource : isOption source.toList = false)
    (hread : readSource files (.ofString source) = .ok lines)
    (h : assemble ⟨lines, none⟩ = (a, none)) (hlength : lines.length < digitBound)
    (hdefects : a.diagnostics ≠ #[]) :
    ∃ r, (∀ rounds, command sets rounds files none ["--strict", source] = some r) ∧
      r.exit.code = 1 ∧ r.outputText = "" ∧
      r.errorRecords = a.diagnostics.toList.map (·.message) := by
  let order : Order := { strict? := some true, program := .ofString source }
  have hcommand : ∀ rounds, command sets rounds files none ["--strict", source] =
      runProgram rounds files none order (order.apply {}) #[] := by
    intro rounds
    simp only [command, readOrder_strict hsource, carryOut, order]
  obtain ⟨m, hquiet, -, hlog, hexecute⟩ := exists_execute_eq (order.apply {}) h hlength
  have hrefused : execute 0 (order.apply {}) .accepting ⟨lines, none⟩ =
      ⟨m, .failed (.rejected a.diagnostics)⟩ := by
    have hstrict : (order.apply {}).strict.isSet = true := rfl
    rw [hexecute, if_pos]
    simp [hstrict, hdefects]
  obtain ⟨r, hr, hexit, houtput, herrors⟩ :=
    @exists_runProgram_of_failed files order _ lines #[] 0 m _ hread hrefused
  refine ⟨r, fun rounds ↦ command_eq_of_le (Nat.zero_le rounds) ((hcommand 0).trans hr), ?_, ?_, ?_⟩
  · rw [hexit]
    rfl
  · have hnothing : m.emitted = #[] := congrArg Machine.emitted hquiet
    rw [Result.outputText, houtput, hnothing]
    rfl
  · have hbefore : Log.IsErrorFree #[.info "SML", collecting order.program] := by
      simp [Log.IsErrorFree, collecting]
    have hloaded : m.log.IsErrorFree := fun r hr ↦
      (hlog r hr).elim (isErrorFree_of_assemble h r) id
    rw [Result.errorRecords, herrors]
    simp only [Array.toList_append, List.filterMap_append,
      filterMap_errorRecord?_shown_eq_nil _ hbefore, filterMap_errorRecord?_shown_eq_nil _ hloaded,
      filterMap_errorRecord?_closing]
    rfl

/-- A strict run has code 1 for the programs with defects. -/
theorem Run.exitsWith_strict_iff (hsource : isOption source.toList = false)
    (hread : readSource files (.ofString source) = .ok lines)
    (h : assemble ⟨lines, none⟩ = (a, none)) (hlength : lines.length < digitBound) :
    (∃ text, ExitsWith sets files ["--strict", source] 1 text) ↔ a.diagnostics ≠ #[] := by
  have hreads : Reads sets files ["--strict", source]
      { strict? := some true, program := .ofString source } _ lines :=
    ⟨readOrder_strict hsource, .options rfl, hread, hlength⟩
  constructor
  · rintro ⟨text, hexits⟩
    obtain ⟨⟨-, b, hb, hdefects⟩, -⟩ := (exitsWith_one_iff hreads).1 hexits
    obtain rfl : a = b := congrArg Prod.fst (h.symm.trans hb)
    exact hdefects
  · intro hdefects
    obtain ⟨r, hr, hone, -⟩ := exists_command_strict hsource hread h hlength hdefects
    exact ⟨_, 0, r, hr 0, hone, rfl⟩

end

/-! ### The two commands -/

/-- **Listing a program is a faithful check for a strict run.** The source is a file that can be
read, none of its lines stops the assembling, and the number of its lines can be written. Then the
listing exits with code 1 exactly if the strict run does, and with code 0 otherwise. With code 1 the
strict run ends at once, with nothing on its output, and the messages of the listing are its error
records in their order, less their control sequences; where the source has no escape they are the
same texts. In every case the listing shows the program that a run loads, each instruction behind
its place, and then its labels. -/
theorem listing_checks_strict_run {sets : SetOrder} {files : Files} {source : String}
    {lines : List String} (hsource : isOption source.toList = false)
    (hread : readSource files (.ofString source) = .ok lines)
    (hassemble : (assemble ⟨lines, none⟩).2 = none) (hlength : lines.length < digitBound) :
    let listed := Listing.command files [source]
    let arguments := ["--strict", source]
    (listed.exit.code = 1 ↔ ∃ text, Run.ExitsWith sets files arguments 1 text) ∧
    (listed.exit.code ≠ 1 → listed.exit.code = 0) ∧
    (listed.exit.code = 1 → ∃ r, (∀ rounds, Run.command sets rounds files none arguments = some r) ∧
      r.exit.code = 1 ∧ r.outputText = "" ∧
      listed.messages = r.errorRecords.map withoutControls ∧
      ((∀ line ∈ lines, IsEscapeFree line) → listed.messages = r.errorRecords)) ∧
    ∃ texts labels, listed.output.toList = Listing.numbered texts ++ ["Labels: " ++ labels] ∧
      ∀ rounds settings, let m := (execute rounds settings .accepting ⟨lines, none⟩).machine
        m.program.toList.mapM Instruction.write = .ok texts ∧
        m.listing = .ok ("\n".intercalate texts) ∧ m.labels.write = .ok labels := by
  intro listed arguments
  obtain ⟨a, ha⟩ : ∃ a, assemble ⟨lines, none⟩ = (a, none) := ⟨_, Prod.ext rfl hassemble⟩
  have hformed := isWellFormedProgram_assemble ⟨lines, none⟩
  rw [ha] at hformed
  obtain ⟨texts, htexts, -⟩ := exists_mapM_write hformed.isWellFormed
  obtain ⟨labels, hlabels⟩ := exists_write_labels ha hlength
  obtain ⟨hexit, houtput, hmessages⟩ :
      listed.exit = _ ∧ listed.output.toList = _ ∧ listed.messages = _ :=
    Listing.command_eq hsource hread ha htexts hlabels
  have hcode : listed.exit.code = if a.diagnostics.isEmpty then 0 else 1 := by
    rw [hexit]
    split <;> rfl
  have hdefective : listed.exit.code = 1 ↔ a.diagnostics ≠ #[] := by simp [hcode]
  refine ⟨?_, fun hne ↦ ?_, fun hone ↦ ?_, texts, labels, houtput, fun rounds settings ↦ ?_⟩
  · rw [hdefective, Run.exitsWith_strict_iff hsource hread ha hlength]
  · rw [hcode, if_pos]
    simpa [hdefective] using hne
  · obtain ⟨r, hr, hone, hsilent, hrecords⟩ :=
      Run.exists_command_strict hsource hread ha hlength (hdefective.1 hone)
    refine ⟨r, hr, hone, hsilent, ?_, fun hfree ↦ ?_⟩
    · rw [hmessages, hrecords, List.map_map]
      rfl
    · rw [hmessages, hrecords]
      refine List.map_congr_left fun d hd ↦ withoutControls_eq_self ?_
      exact escapeFree_of_assemble ha hfree d (Array.mem_toList_iff.1 hd)
  · obtain ⟨hprogram, hbindings⟩ := execute_program ha hlength rounds settings
    intro m
    have hwritten : m.program.toList.mapM Instruction.write = .ok texts := by
      rw [show m.program = a.program from hprogram, htexts]
    refine ⟨hwritten, by rw [Machine.listing, hwritten], ?_⟩
    rw [show m.labels = a.labels from hbindings, hlabels]

/-- Both commands tell the defect of a program, and the listing tells the rest of it. -/
theorem listing_checks_strict_run_of_defect :
    let listed := Listing.command Run.faultyTree.read ["program"]
    listed.output.toList = ["   0 out EAX", "   1 div EAX EBX", "Labels: []"] ∧
    ∃ r, (∀ rounds, Run.command .textsLast rounds Run.faultyTree.read none
        ["--strict", "program"] = some r) ∧
      r.outputText = "" ∧ r.errorRecords = ["Line 1: Unknown opcode oops"] ∧
      listed.messages = r.errorRecords := by
  intro listed
  obtain ⟨-, -, hdefects, -⟩ := @listing_checks_strict_run .textsLast Run.faultyTree.read "program"
    ["oops", "out EAX", "div EAX EBX"] rfl rfl (by decide +kernel) (by decide +kernel)
  obtain ⟨r, hr, -, hsilent, -, hsame⟩ := hdefects (by decide +kernel)
  have hmessages : listed.messages = ["Line 1: Unknown opcode oops"] := by decide +kernel
  have hequal : listed.messages = r.errorRecords := hsame (by decide)
  exact ⟨by decide +kernel, r, hr, hsilent, hequal ▸ hmessages, hequal⟩

/-- An opcode in red, which is none. -/
def colouredTree : FileTree where
  files := [(["program"], Utf8.encode "\x1b[31mmov EAX 1\nout EAX".toList)]

/-- **The two commands do not word every defect alike**: the listing leaves out the control sequence
of an unknown opcode, and the strict run keeps it. -/
theorem listing_drops_controls :
    let files := colouredTree.read
    let listed := Listing.command files ["program"]
    (∃ lines, readSource files (.ofString "program") = .ok lines ∧
      (assemble ⟨lines, none⟩).2 = none) ∧
    listed.exit.code = 1 ∧ listed.messages = ["Line 1: Unknown opcode mov"] ∧
    ∃ r, Run.command .textsLast 0 files none ["--strict", "program"] = some r ∧ r.exit.code = 1 ∧
      r.errorRecords = ["Line 1: Unknown opcode \x1b[31mmov"] ∧
      listed.messages ≠ r.errorRecords := by
  intro files listed
  have hmessages : listed.messages = ["Line 1: Unknown opcode mov"] := by decide +kernel
  have hrun : (Run.command .textsLast 0 files none ["--strict", "program"]).map
      (fun r ↦ (r.exit.code, r.errorRecords)) =
        some (1, ["Line 1: Unknown opcode \x1b[31mmov"]) := by decide +kernel
  obtain ⟨r, hr, hresult⟩ := Option.map_eq_some_iff.1 hrun
  obtain ⟨hcode, hrecords⟩ := Prod.mk.inj hresult
  refine ⟨⟨["\x1b[31mmov EAX 1", "out EAX"], rfl, by decide +kernel⟩, by decide +kernel, hmessages,
    r, hr, hcode, hrecords, ?_⟩
  rw [hmessages, hrecords]
  decide

end Command

end RegisterMachine
