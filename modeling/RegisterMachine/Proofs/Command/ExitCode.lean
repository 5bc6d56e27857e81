import RegisterMachine.Command.Run
import RegisterMachine.Proofs.Assembly.Meaning
import RegisterMachine.Proofs.Assembly.Recovery
import RegisterMachine.Proofs.CanonicalLabels
import RegisterMachine.Proofs.Machine.Tracing

/-!
# What the exit code tells

The command runs a program on a machine that keeps a log and may trace, and tells the end of the
run by its exit code. Here the code is compared with **what the program itself does**, on a fresh
machine without a trace: 1 if it is refused, 0 if it halts normally, 2 if it faults.

The code tells this with one reservation. Besides what the program emits, the command itself
writes numbers: the places of the labels, the registers at the end, and with a trace the registers
after every step. A register may hold a number that is too long to be written, and then the command
breaks off with a code of its own, although the program came to its end. The exact condition is in
`exit_code`: that the registers are short at the end (for code 0), and all along if there is a
trace (for codes 0 and 2). A program with a line that cannot be assembled is not run at all.

The machine of the command and the fresh one have the same quiet copy, so their runs are compared
by `Machine.exists_ends_iff_of_quiet_eq`. Program counter and places of labels are no concern, since
they stay within the program.
-/

namespace RegisterMachine

open Text Toml

/-! ### Labels of a loaded program can be written -/

/-- A program has no more instructions than it has lines. -/
theorem size_program_le_of_assemble {lines : List String} {a : Assembly}
    (h : assemble ⟨lines, none⟩ = (a, none)) : a.program.size ≤ lines.length := by
  obtain ⟨b, hadd, rfl⟩ := assemble_eq_none_iff.1 h
  have hdescribes := Describes.of_addLines hadd
  have hsize : b.close.program.size = (accepted lines).length := by
    rw [← hdescribes.program, Array.length_toList]
    rfl
  have hcount := hdescribes.count
  omega

/-- The places of a program with a countable number of lines can be written. -/
theorem exists_write_labels {lines : List String} {a : Assembly}
    (h : assemble ⟨lines, none⟩ = (a, none)) (hlength : lines.length < digitBound) :
    ∃ text, a.labels.write = .ok text := by
  refine ⟨_, LabelTable.write_eq fun name place hplace ↦ ?_⟩
  have hmatch : LabelsMatch a.program a.labels := by
    simpa [h] using labelsMatch_assemble ⟨lines, none⟩
  obtain ⟨k, i, rfl, hk, -⟩ := (hmatch name place).1 hplace
  obtain ⟨hlt, -⟩ := Array.getElem?_eq_some_iff.1 hk
  have hsize := size_program_le_of_assemble h
  omega

namespace Command

/-! ### Executing lines -/

section Execution

variable {lines : List String} {a : Assembly} {settings : Settings}

/-- Lines that cannot be loaded are not executed. -/
theorem execute_of_overlong (rounds : Nat) (settings : Settings)
    (h : ∃ line ∈ lines, MovesOverlong line) :
    ∃ m e, execute rounds settings .accepting ⟨lines, none⟩ =
      ⟨m, .failed (.failure (.digits e))⟩ := by
  rcases hassemble : assemble ⟨lines, none⟩ with ⟨a, - | f⟩
  · obtain ⟨line, hmem, hline⟩ := h
    exact absurd hline ((exists_assemble_iff lines).1 ⟨a, hassemble⟩ line hmem)
  · have hfailure : (assemble ⟨lines, none⟩).2 = some f := by rw [hassemble]
    obtain ⟨-, -, count, -, rfl⟩ := exists_digits_of_assemble hfailure
    exact ⟨_, .reading count, by rw [execute, Machine.load, hassemble]; rfl⟩

/-- What is told about a loaded program changes the log only, and can be told if the labels can be
written. It is no error. -/
theorem exists_announce {m : Machine} {text : String} (h : m.labels.write = .ok text) :
    ∃ n, Execution.announce m = (n, none) ∧ n.quiet = m.quiet ∧ n.trace = m.trace ∧
      ∀ r ∈ n.log, r ∈ m.log ∨ r.level ≠ .error := by
  let size : Record :=
    .info ("Here is the program; it has " ++ m.program.size.repr ++ " instructions.")
  have hlabels : (m.note size).labels.write = .ok text := h
  refine ⟨(m.note size).note (.debug ("Labels: " ++ text)), ?_, rfl, rfl, fun r hr ↦ ?_⟩
  · simp only [Execution.announce, size, hlabels]
  · simp only [Machine.note, Array.mem_push] at hr
    rcases hr with (hr | rfl) | rfl
    · exact .inl hr
    · exact .inr (by simp [size])
    · exact .inr (by simp)

/-- **Lines that can be loaded are refused or run** on a machine that differs from a fresh one in
its log and its trace only. -/
theorem exists_execute_eq (settings : Settings) (h : assemble ⟨lines, none⟩ = (a, none))
    (hlength : lines.length < digitBound) :
    ∃ m : Machine, m.quiet = (({} : Machine).install a).quiet ∧ m.trace = settings.trace.isSet ∧
      (∀ r ∈ m.log, r ∈ a.log ∨ r.level ≠ .error) ∧
      ∀ rounds, execute rounds settings .accepting ⟨lines, none⟩ =
        if !a.diagnostics.isEmpty && settings.strict.isSet then
          ⟨m, .failed (.rejected a.diagnostics)⟩
        else Execution.run rounds m := by
  obtain ⟨text, htext⟩ := exists_write_labels h hlength
  have hlabels : (({ trace := settings.trace.isSet } : Machine).install a).labels.write =
    .ok text := htext
  obtain ⟨m, hannounce, hquiet, htrace, hlog⟩ := exists_announce hlabels
  refine ⟨m, hquiet, htrace, fun r hr ↦ ?_, fun rounds ↦ ?_⟩
  · simpa [Machine.install] using hlog r hr
  · simp only [execute, Machine.load, h, hannounce]

/-- What is answered about a run that is through does not depend on the bound. -/
theorem Execution.run_eq_of_le {rounds more : Nat} {m : Machine} (hle : rounds ≤ more)
    (h : (Execution.run rounds m).outcome ≠ .unfinished) :
    Execution.run more m = Execution.run rounds m := by
  rw [Execution.run] at h ⊢
  rw [Execution.run]
  cases hprogress : (m.note (.info "Beginning program execution.")).execute rounds with
  | running n => simp [hprogress] at h
  | ended n f? =>
    have hmore : (m.note (.info "Beginning program execution.")).execute more = .ended n f? :=
      Machine.run_eq_ended_of_le hle hprogress
    rw [hmore]

theorem execute_eq_of_le {rounds more : Nat} {sink : Sink} {source : LineSource}
    (hle : rounds ≤ more)
    (h : (execute rounds settings sink source).outcome ≠ .unfinished) :
    execute more settings sink source = execute rounds settings sink source := by
  rw [execute] at h ⊢
  rw [execute]
  rcases hload : ({ trace := settings.trace.isSet, sink } : Machine).load source with ⟨m, f | d⟩
  · rfl
  · rw [hload] at h
    dsimp only at h ⊢
    rcases hannounce : Execution.announce m with ⟨n, - | f⟩
    · rw [hannounce] at h
      dsimp only at h ⊢
      split
      · rfl
      next hruns =>
        rw [if_neg hruns] at h
        exact Execution.run_eq_of_le hle h
    · rfl

end Execution

namespace Run

/-! ### The end of the command -/

/-- How the command ends when a run has ended so. -/
def exitFor (program : Path) (m : Machine) : Option Failure → Exit
  | none => match m.registers.write with
    | .ok _ => .done
    | .error _ => .broken
  | some f => (closing program (.failure f)).2

theorem code_exitFor_eq_zero_iff {program : Path} {m : Machine} {f? : Option Failure} :
    (exitFor program m f?).code = 0 ↔ f? = none ∧ m.registers.IsShort := by
  cases f? with
  | none =>
    rw [← RegisterFile.exists_write_iff, exitFor]
    cases m.registers.write <;> simp [Exit.code]
  | some f => cases f <;> simp [exitFor, closing, Exit.code]

theorem code_exitFor_eq_two_iff {program : Path} {m : Machine} {f? : Option Failure} :
    (exitFor program m f?).code = 2 ↔ ∃ f, f? = some (.fault f) := by
  cases f? with
  | none =>
    rw [exitFor]
    cases m.registers.write <;> simp [Exit.code]
  | some f => cases f <;> simp [exitFor, closing, Exit.code]

theorem code_exitFor_ne_one {program : Path} {m : Machine} {f? : Option Failure} :
    (exitFor program m f?).code ≠ 1 := by
  cases f? with
  | none =>
    rw [exitFor]
    cases m.registers.write <;> simp [Exit.code]
  | some f => cases f <;> simp [exitFor, closing, Exit.code]

section

variable {files : Files} {order : Order} {settings : Settings} {lines : List String}
  {errors : Array ErrorLine} {rounds : Nat}

/-- The command ends as the run of its program does. -/
theorem exists_runProgram_of_ended {m n : Machine} {f? : Option Failure}
    (hlines : readSource files order.program = .ok lines)
    (hexecute : execute rounds settings .accepting ⟨lines, none⟩ = Execution.run rounds m)
    (h : (m.note (.info "Beginning program execution.")).execute rounds = .ended n f?) :
    ∃ r, runProgram rounds files none order settings errors = some r ∧
      r.exit = exitFor order.program n f? ∧ r.output = n.emitted := by
  simp only [runProgram, hlines, interruptedSource, hexecute, Execution.run, h]
  cases f? with
  | some f => exact ⟨_, rfl, rfl, rfl⟩
  | none =>
    have hnote : (n.note (.info "Ending program execution.")).registers.write =
      n.registers.write := rfl
    simp only [Execution.report, exitFor, hnote]
    cases n.registers.write with
    | ok text => exact ⟨_, rfl, rfl, rfl⟩
    | error e => exact ⟨_, rfl, rfl, rfl⟩

/-- As long as the program runs, so does the command. -/
theorem runProgram_of_running {m n : Machine}
    (hlines : readSource files order.program = .ok lines)
    (hexecute : execute rounds settings .accepting ⟨lines, none⟩ = Execution.run rounds m)
    (h : (m.note (.info "Beginning program execution.")).execute rounds = .running n) :
    runProgram rounds files none order settings errors = none := by
  simp only [runProgram, hlines, interruptedSource, hexecute, Execution.run, h]

/-- A program that is not run to its end is told, with what was emitted and logged. -/
theorem exists_runProgram_of_failed {m : Machine} {e : Error}
    (hlines : readSource files order.program = .ok lines)
    (hexecute : execute rounds settings .accepting ⟨lines, none⟩ = ⟨m, .failed e⟩) :
    let threshold := thresholdFor settings.verbose.isSet
    ∃ r, runProgram rounds files none order settings errors = some r ∧
      r.exit = (closing order.program e).2 ∧ r.output = m.emitted ∧
      r.errors = errors ++ shown threshold #[.info "SML", collecting order.program] ++
        shown threshold m.log ++ shown threshold (closing order.program e).1 := by
  simp only [runProgram, hlines, interruptedSource, hexecute]
  exact ⟨_, rfl, rfl, rfl, rfl⟩

end

/-! ### Codes and output -/

/-- The settings that an order puts in force: those of its options over those of its file. -/
inductive Order.Uses (order : Order) (sets : SetOrder) (files : Files) : Settings → Prop
  | options (h : order.config? = none) : Uses order sets files (order.apply {})
  | file {path : Path} {given : Settings} (h : order.config? = some path)
      (hread : readSettings sets (settingsRoom - commandSteps) files path = .ok given) :
      Uses order sets files (order.apply given)

/-- The arguments give an order; its settings are loaded and the lines of its program read, of which
there are fewer than have a number that can be written. -/
structure Reads (sets : SetOrder) (files : Files) (arguments : List String) (order : Order)
    (settings : Settings) (lines : List String) : Prop where
  readOrder : readOrder arguments = .ok order
  uses : order.Uses sets files settings
  readSource : readSource files order.program = .ok lines
  length_lt : lines.length < digitBound

/-- The command ends with this code, and with this text on its output. -/
def ExitsWith (sets : SetOrder) (files : Files) (arguments : List String) (code : Nat)
    (text : String) : Prop :=
  ∃ rounds r, command sets rounds files none arguments = some r ∧ r.exit.code = code ∧
    r.outputText = text

/-- The settings refuse a program with these lines, because of its defects. -/
def Refuses (settings : Settings) (lines : List String) : Prop :=
  settings.strict.isSet = true ∧
    ∃ a, assemble ⟨lines, none⟩ = (a, none) ∧ a.diagnostics ≠ #[]

/-- The command runs its program under the settings in force. -/
theorem exists_command_eq {sets : SetOrder} {files : Files} {arguments : List String}
    {order : Order} {settings : Settings} (horder : readOrder arguments = .ok order)
    (hsettings : order.Uses sets files settings) :
    ∃ errors, ∀ rounds, command sets rounds files none arguments =
      runProgram rounds files none order settings errors := by
  simp only [command, horder, carryOut]
  cases hsettings with
  | options h => exact ⟨#[], fun rounds ↦ by rw [h]⟩
  | @file path given h hread =>
    refine ⟨shown (thresholdFor order.verbose) #[loadingSettings path], fun rounds ↦ ?_⟩
    simp only [h, hread]

theorem runProgram_eq_of_le {rounds more : Nat} {files : Files} {order : Order}
    {settings : Settings} {errors : Array ErrorLine} {r : Result} (hle : rounds ≤ more)
    (h : runProgram rounds files none order settings errors = some r) :
    runProgram more files none order settings errors = some r := by
  rw [runProgram] at h ⊢
  cases hlines : readSource files order.program with
  | error e => rwa [hlines] at h
  | ok lines =>
    simp only [hlines] at h ⊢
    rw [execute_eq_of_le hle]
    · exact h
    · intro hunfinished
      simp [hunfinished] at h

/-- What the command answers does not depend on the bound. -/
theorem command_eq_of_le {sets : SetOrder} {rounds more : Nat} {files : Files}
    {arguments : List String} {r : Result} (hle : rounds ≤ more)
    (h : command sets rounds files none arguments = some r) :
    command sets more files none arguments = some r := by
  rw [command] at h ⊢
  cases horder : readOrder arguments with
  | error result => rwa [horder] at h
  | ok order =>
    simp only [horder, carryOut] at h ⊢
    cases hconfig : order.config? with
    | none =>
      simp only [hconfig] at h ⊢
      exact runProgram_eq_of_le hle h
    | some path =>
      simp only [hconfig] at h ⊢
      cases hread : readSettings sets (settingsRoom - commandSteps) files path with
      | error e => simpa only [hread] using h
      | ok given =>
        simp only [hread] at h ⊢
        exact runProgram_eq_of_le hle h

/-- The command ends in one way. -/
theorem ExitsWith.unique {sets : SetOrder} {files : Files} {arguments : List String}
    {code code' : Nat} {text text' : String} (h : ExitsWith sets files arguments code text)
    (h' : ExitsWith sets files arguments code' text') : code = code' ∧ text = text' := by
  obtain ⟨rounds, r, hr, rfl, rfl⟩ := h
  obtain ⟨rounds', r', hr', rfl, rfl⟩ := h'
  have hlate := command_eq_of_le (Nat.le_max_left rounds rounds') hr
  have hlate' := command_eq_of_le (Nat.le_max_right rounds rounds') hr'
  obtain rfl := Option.some.inj (hlate.symm.trans hlate')
  exact ⟨rfl, rfl⟩

section

variable {sets : SetOrder} {files : Files} {arguments : List String} {order : Order}
  {settings : Settings} {lines : List String} {code : Nat} {text : String}

/-- A program that cannot be loaded is neither refused nor run. -/
theorem code_of_overlong (h : Reads sets files arguments order settings lines)
    (hoverlong : ∃ line ∈ lines, MovesOverlong line)
    (hexits : ExitsWith sets files arguments code text) : code = 100 := by
  obtain ⟨errors, hrun⟩ := exists_command_eq h.readOrder h.uses
  obtain ⟨m, e, hexecute⟩ := execute_of_overlong 0 settings hoverlong
  obtain ⟨r, hr, hexit, -, -⟩ := exists_runProgram_of_failed h.readSource hexecute
  have hbroken : ExitsWith sets files arguments 100 r.outputText :=
    ⟨0, r, (hrun 0).trans hr, by rw [hexit]; rfl, rfl⟩
  exact (hexits.unique hbroken).1

/-- **A program that is refused ends the command with code 1**, before anything is emitted. -/
theorem exitsWith_iff_of_refuses (h : Reads sets files arguments order settings lines)
    (hrefuses : Refuses settings lines) :
    ExitsWith sets files arguments code text ↔ code = 1 ∧ text = "" := by
  obtain ⟨hstrict, a, hassemble, hdefects⟩ := hrefuses
  obtain ⟨errors, hrun⟩ := exists_command_eq h.readOrder h.uses
  obtain ⟨m, hquiet, -, -, hexecute⟩ := exists_execute_eq settings hassemble h.length_lt
  have hnothing : m.emitted = #[] := congrArg Machine.emitted hquiet
  have hrejected : execute 0 settings .accepting ⟨lines, none⟩ =
      ⟨m, .failed (.rejected a.diagnostics)⟩ := by
    rw [hexecute, if_pos]
    simp [hstrict, hdefects]
  obtain ⟨r, hr, hexit, houtput, -⟩ := exists_runProgram_of_failed h.readSource hrejected
  have hdefective : ExitsWith sets files arguments 1 "" := by
    refine ⟨0, r, (hrun 0).trans hr, by rw [hexit]; rfl, ?_⟩
    rw [Result.outputText, houtput, hnothing]
    rfl
  constructor
  · exact fun hexits ↦ hexits.unique hdefective
  · rintro ⟨rfl, rfl⟩
    exact hdefective

/-- **A program that is not refused is run**, and the command ends as its run does. -/
theorem exists_exitsWith_iff (h : Reads sets files arguments order settings lines)
    {a : Assembly} (hassemble : assemble ⟨lines, none⟩ = (a, none))
    (hrefuses : ¬Refuses settings lines) :
    ∃ m : Machine, m.quiet = (({} : Machine).install a).quiet ∧ m.trace = settings.trace.isSet ∧
      ∀ {code text}, ExitsWith sets files arguments code text ↔
        ∃ f? n, m.Ends n f? ∧ (exitFor order.program n f?).code = code ∧
          joinLines n.emitted = text := by
  obtain ⟨errors, hrun⟩ := exists_command_eq h.readOrder h.uses
  obtain ⟨m, hquiet, htrace, -, hexecute⟩ := exists_execute_eq settings hassemble h.length_lt
  have hruns : ∀ rounds, execute rounds settings .accepting ⟨lines, none⟩ =
      Execution.run rounds m := by
    intro rounds
    rw [hexecute, if_neg]
    intro hcondition
    obtain ⟨hdefects, hstrict⟩ := Bool.and_eq_true_iff.1 hcondition
    exact hrefuses ⟨hstrict, a, hassemble, by simpa using hdefects⟩
  refine ⟨m.note (.info "Beginning program execution."), hquiet, htrace, fun {code text} ↦ ?_⟩
  constructor
  · rintro ⟨rounds, r, hcommand, rfl, rfl⟩
    rw [hrun] at hcommand
    cases hprogress : (m.note (.info "Beginning program execution.")).execute rounds with
    | running s =>
      rw [runProgram_of_running h.readSource (hruns rounds) hprogress] at hcommand
      exact nomatch hcommand
    | ended n f? =>
      obtain ⟨r', hr', hexit, houtput⟩ :=
        exists_runProgram_of_ended h.readSource (hruns rounds) hprogress
      obtain rfl := Option.some.inj (hr'.symm.trans hcommand)
      exact ⟨f?, n, ⟨rounds, hprogress⟩, by rw [hexit], by rw [Result.outputText, houtput]⟩
  · rintro ⟨f?, n, ⟨rounds, hprogress⟩, rfl, rfl⟩
    obtain ⟨r, hr, hexit, houtput⟩ :=
      exists_runProgram_of_ended h.readSource (hruns rounds) hprogress
    exact ⟨rounds, r, (hrun rounds).trans hr, by rw [hexit], by rw [Result.outputText, houtput]⟩

end

/-! ### What the program does -/

/-- A state of a loaded program can be shown exactly when its registers are short: the program
counter always is. -/
theorem isShowable_iff_of_install {lines : List String} {a : Assembly}
    (h : assemble ⟨lines, none⟩ = (a, none)) (hlength : lines.length < digitBound) {m s : Machine}
    {k : Nat} (hs : (m.install a).execute k = .running s) :
    s.IsShowable ↔ s.registers.IsShort := by
  have hmatch : LabelsMatch a.program a.labels := by
    simpa [h] using labelsMatch_assemble ⟨lines, none⟩
  have hstart : (m.install a).start.IsOnCourse := ⟨hmatch, rfl, Int.le_refl 0, Int.natCast_nonneg _⟩
  have hcourse : s.IsOnCourse := by
    have hrun := hstart.run k
    rwa [show (m.install a).start.run k = .running s from hs] at hrun
  have hprogram : s.program = a.program := by
    have hrun := (m.install a).start.program_run k
    rwa [show (m.install a).start.run k = .running s from hs] at hrun
  obtain ⟨hlow, hhigh⟩ := hcourse.contained
  rw [hprogram] at hhigh
  have hsize := size_program_le_of_assemble h
  exact ⟨fun hshow ↦ hshow.registers, fun hshort ↦ ⟨by omega, hshort⟩⟩

/-- With a trace, the registers are short after every step of the program. -/
def IsTraceable (settings : Settings) (m : Machine) : Prop :=
  settings.trace.isSet = true → ∀ k s, m.execute k = .running s → s.registers.IsShort

/-- A program that the command runs has the endings that it has for itself, if it can be traced
where it is to be. -/
theorem exists_ends_iff_of_install {lines : List String} {a : Assembly} {settings : Settings}
    (h : assemble ⟨lines, none⟩ = (a, none)) (hlength : lines.length < digitBound) {m m' : Machine}
    (hoff : m.trace = false) (hquiet : m'.quiet = (m.install a).quiet)
    (htrace : m'.trace = settings.trace.isSet) {f? : Option Failure}
    (hf : ∀ e, f? ≠ some (.digits e)) {P : Machine → Prop} (hP : ∀ n, P n ↔ P n.quiet) :
    (∃ n, m'.Ends n f? ∧ P n) ↔
      IsTraceable settings (m.install a) ∧ ∃ n, (m.install a).Ends n f? ∧ P n := by
  rw [Machine.exists_ends_iff_of_quiet_eq hquiet hoff hf hP, htrace, and_comm]
  refine and_congr_left fun _ ↦ imp_congr_right fun _ ↦ forall_congr' fun k ↦ ?_
  exact forall_congr' fun s ↦ forall_congr' fun hs ↦ isShowable_iff_of_install h hlength hs

section

variable {sets : SetOrder} {files : Files} {arguments : List String} {order : Order}
  {settings : Settings} {lines : List String} {a : Assembly} {text : String}

/-- **Code 0 tells a normal halt**, if all there is to report can be written. -/
theorem exitsWith_zero_iff (h : Reads sets files arguments order settings lines)
    (hassemble : assemble ⟨lines, none⟩ = (a, none)) (hrefuses : ¬Refuses settings lines) :
    ExitsWith sets files arguments 0 text ↔
      IsTraceable settings (({} : Machine).install a) ∧
        ∃ n, (({} : Machine).install a).Ends n none ∧ n.registers.IsShort ∧
          text = joinLines n.emitted := by
  obtain ⟨m, hquiet, htrace, hexits⟩ := exists_exitsWith_iff h hassemble hrefuses
  have hnormal := exists_ends_iff_of_install hassemble h.length_lt rfl hquiet htrace
    (P := fun n ↦ n.registers.IsShort ∧ text = joinLines n.emitted)
    (by simp : ∀ e, (none : Option Failure) ≠ some (.digits e)) fun _ ↦ Iff.rfl
  rw [← hnormal, hexits]
  constructor
  · rintro ⟨f?, n, hends, hcode, rfl⟩
    obtain ⟨rfl, hshort⟩ := code_exitFor_eq_zero_iff.1 hcode
    exact ⟨n, hends, hshort, rfl⟩
  · rintro ⟨n, hends, hshort, rfl⟩
    exact ⟨none, n, hends, code_exitFor_eq_zero_iff.2 ⟨rfl, hshort⟩, rfl⟩

/-- **Code 2 tells a fault**, if all there is to report can be written. -/
theorem exitsWith_two_iff (h : Reads sets files arguments order settings lines)
    (hassemble : assemble ⟨lines, none⟩ = (a, none)) (hrefuses : ¬Refuses settings lines) :
    ExitsWith sets files arguments 2 text ↔
      IsTraceable settings (({} : Machine).install a) ∧
        ∃ f n, (({} : Machine).install a).Ends n (some (.fault f)) ∧
          text = joinLines n.emitted := by
  obtain ⟨m, hquiet, htrace, hexits⟩ := exists_exitsWith_iff h hassemble hrefuses
  have hfault := fun f ↦ exists_ends_iff_of_install hassemble h.length_lt rfl hquiet htrace
    (P := fun n ↦ text = joinLines n.emitted)
    (by simp : ∀ e, some (Failure.fault f) ≠ some (.digits e)) fun _ ↦ Iff.rfl
  rw [← exists_and_left, hexits]
  simp only [← hfault]
  constructor
  · rintro ⟨f?, n, hends, hcode, rfl⟩
    obtain ⟨f, rfl⟩ := code_exitFor_eq_two_iff.1 hcode
    exact ⟨f, n, hends, rfl⟩
  · rintro ⟨f, n, hends, rfl⟩
    exact ⟨some (.fault f), n, hends, code_exitFor_eq_two_iff.2 ⟨f, rfl⟩, rfl⟩

/-- **Code 1 tells a refusal**, and nothing else. -/
theorem exitsWith_one_iff (h : Reads sets files arguments order settings lines) :
    ExitsWith sets files arguments 1 text ↔ Refuses settings lines ∧ text = "" := by
  by_cases hrefuses : Refuses settings lines
  · rw [exitsWith_iff_of_refuses h hrefuses]
    simp [hrefuses]
  · refine ⟨fun hone ↦ ?_, fun hone ↦ absurd hone.1 hrefuses⟩
    by_cases hread : ∀ line ∈ lines, ¬MovesOverlong line
    · obtain ⟨a, hassemble⟩ := (exists_assemble_iff lines).2 hread
      obtain ⟨m, -, -, hexits⟩ := exists_exitsWith_iff h hassemble hrefuses
      obtain ⟨f?, n, -, hcode, -⟩ := hexits.1 hone
      exact absurd hcode code_exitFor_ne_one
    · have hoverlong : ∃ line ∈ lines, MovesOverlong line := by simpa using hread
      exact absurd (code_of_overlong h hoverlong hone) (by decide)

end

/-- **What the exit code tells**, whatever the order of sets. The arguments are read, the settings
loaded and the program file read. Let `m` be a fresh machine with the program. The command exits
with code 1 exactly if the settings refuse the program for its defects, and with nothing on its
output then. If they do not refuse it, then the command exits with code 0 exactly if every line
can be assembled, the program halts normally with short registers, and it can be traced if it is
to be; with code 2 exactly if every line can be assembled, the program ends in a fault, and it can
be traced if it is to be; and its output is what the program emitted, one text a line. -/
theorem exit_code {sets : SetOrder} {files : Files} {arguments : List String} {order : Order}
    {settings : Settings} {lines : List String}
    (h : Reads sets files arguments order settings lines) :
    let m := (({} : Machine).load ⟨lines, none⟩).1
    (∀ text, ExitsWith sets files arguments 1 text ↔ Refuses settings lines ∧ text = "") ∧
    (¬Refuses settings lines → ∀ text,
      (ExitsWith sets files arguments 0 text ↔
        (∀ line ∈ lines, ¬MovesOverlong line) ∧ IsTraceable settings m ∧
          ∃ n, m.Ends n none ∧ n.registers.IsShort ∧ text = joinLines n.emitted) ∧
      (ExitsWith sets files arguments 2 text ↔
        (∀ line ∈ lines, ¬MovesOverlong line) ∧ IsTraceable settings m ∧
          ∃ f n, m.Ends n (some (.fault f)) ∧ text = joinLines n.emitted)) := by
  intro m
  refine ⟨fun text ↦ exitsWith_one_iff h, fun hrefuses text ↦ ?_⟩
  by_cases hread : ∀ line ∈ lines, ¬MovesOverlong line
  · obtain ⟨a, hassemble⟩ := (exists_assemble_iff lines).2 hread
    have hm : m = ({} : Machine).install a := by
      simp only [m, Machine.fst_load, hassemble]
    rw [hm, and_iff_right hread, and_iff_right hread]
    exact ⟨exitsWith_zero_iff h hassemble hrefuses, exitsWith_two_iff h hassemble hrefuses⟩
  · have hoverlong : ∃ line ∈ lines, MovesOverlong line := by simpa using hread
    constructor
    · refine ⟨fun hzero ↦ ?_, fun hzero ↦ absurd hzero.1 hread⟩
      exact absurd (code_of_overlong h hoverlong hzero) (by decide)
    · refine ⟨fun htwo ↦ ?_, fun htwo ↦ absurd htwo.1 hread⟩
      exact absurd (code_of_overlong h hoverlong htwo) (by decide)

/-! ### Two programs -/

/-- A program with a defect, an output and a fault, and settings that would refuse it. -/
def faultyTree : FileTree where
  files := [(["program"], Utf8.encode "oops\nout EAX\ndiv EAX EBX\n".toList),
    (["settings"], Utf8.encode "[run]\nstrict = true\n".toList)]

/-- The options win over the settings file, so the program is run, with a trace, up to its
fault. -/
theorem exit_code_of_fault :
    let arguments := ["--trace", "-c", "settings", "--no-strict", "program"]
    ∃ order settings lines, Reads .textsLast faultyTree.read arguments order settings lines ∧
      settings.trace.isSet = true ∧ ¬Refuses settings lines ∧
      ExitsWith .textsLast faultyTree.read arguments 2 "0\n" := by
  intro arguments
  let order : Order :=
    { config? := some (.ofString "settings"), trace? := some true, strict? := some false,
      program := .ofString "program" }
  let given : Settings := { strict := .boolean true }
  let lines := ["oops", "out EAX", "div EAX EBX"]
  have hreads : Reads .textsLast faultyTree.read arguments order (order.apply given) lines :=
    ⟨rfl, .file rfl rfl, rfl, by decide +kernel⟩
  have hrefuses : ¬Refuses (order.apply given) lines := fun h ↦ (nomatch h.1)
  let m := (({} : Machine).load ⟨lines, none⟩).1
  have hstatus : (m.execute 2).machine.status = .halted .fault := by decide +kernel
  obtain ⟨f, hended⟩ := Machine.exists_execute_of_halted_fault hstatus
  have hemitted : "0\n" = joinLines (m.execute 2).machine.emitted := by decide +kernel
  have htraceable : IsTraceable (order.apply given) m := by
    intro _ k s hs
    have hregisters : s.registers = .zero := by
      rcases k with _ | _ | k
      · exact Progress.running.inj hs ▸ rfl
      · have hone : (m.execute 1).machine.registers = .zero := by decide +kernel
        rwa [hs] at hone
      · cases (Machine.run_eq_ended_of_le (by omega) hended).symm.trans hs
    intro r
    rw [hregisters, RegisterFile.get_zero]
    exact digitBound_pos
  obtain ⟨-, hcodes⟩ := exit_code hreads
  refine ⟨order, order.apply given, lines, hreads, rfl, hrefuses, ?_⟩
  refine (hcodes hrefuses "0\n").2.2 ⟨?_, htraceable, f, _, ⟨2, hended⟩, hemitted⟩
  have hassemble : (assemble ⟨lines, none⟩).2 = none := by decide +kernel
  exact (exists_assemble_iff lines).1 ⟨_, Prod.ext rfl hassemble⟩

/-- A number that is squared nine times, and is too long to be written then. -/
def squaringTree : FileTree where
  files := [(["program"], Utf8.encode ("mov EAX 1000000000\nmov EBX 9\nmov ECX 1\n" ++
    "f: mul EAX EAX\nsub EBX ECX\njnz EBX f\n").toList)]

/-- **A normal halt is not told by code 0** if a register holds a number that is too long to be
written: the program emits nothing and comes to its end, but the command breaks off. -/
theorem exit_code_of_long_register :
    ∃ order settings lines, Reads .textsLast squaringTree.read ["program"] order settings lines ∧
      ¬Refuses settings lines ∧
      (∃ n, (({} : Machine).load ⟨lines, none⟩).1.Ends n none ∧ n.status = .halted .normal) ∧
      ExitsWith .textsLast squaringTree.read ["program"] 100 "" ∧
      ∀ text, ¬ExitsWith .textsLast squaringTree.read ["program"] 0 text := by
  let order : Order := { program := .ofString "program" }
  let lines := ["mov EAX 1000000000", "mov EBX 9", "mov ECX 1", "f: mul EAX EAX", "sub EBX ECX",
    "jnz EBX f"]
  have hsource : readSource squaringTree.read order.program = .ok lines := by
    have hlines : (readSource squaringTree.read order.program).toOption = some lines := by
      decide +kernel
    cases hread : readSource squaringTree.read order.program with
    | error e => simp [hread, Except.toOption] at hlines
    | ok given => simpa [hread, Except.toOption] using hlines
  have hreads : Reads .textsLast squaringTree.read ["program"] order (order.apply {}) lines :=
    ⟨rfl, .options rfl, hsource, by decide +kernel⟩
  have hbroken : ExitsWith .textsLast squaringTree.read ["program"] 100 "" := by
    have hcommand : ((command .textsLast 31 squaringTree.read none ["program"]).map
        fun r ↦ (r.exit.code, r.outputText)) = some (100, "") := by decide +kernel
    obtain ⟨r, hr, hresult⟩ := Option.map_eq_some_iff.1 hcommand
    exact ⟨31, r, hr, congrArg Prod.fst hresult, congrArg Prod.snd hresult⟩
  refine ⟨order, order.apply {}, lines, hreads, fun h ↦ (nomatch h.1), ?_, hbroken,
    fun text hzero ↦ nomatch (hzero.unique hbroken).1⟩
  have hstatus : ((({} : Machine).load ⟨lines, none⟩).1.execute 31).machine.status =
    .halted .normal := by decide +kernel
  exact ⟨_, ⟨31, Machine.execute_of_halted_normal hstatus⟩, hstatus⟩

end Run

end Command

end RegisterMachine
