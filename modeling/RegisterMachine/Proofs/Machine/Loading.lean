import RegisterMachine.Proofs.Assembly.Recovery
import RegisterMachine.Proofs.Machine.ProgramCounter

/-!
# Loading a program

A load replaces program and labels, whatever the machine held, and leaves all the rest of it alone
(`load_replaces`). This must be so **at every moment of it**, since a source may break off between
any two lines, and what was taken in by then stays in place.

`Machine.Fills` says how a machine is filled line by line. It is first cleared; then every
instruction is appended, and its label bound, by the operations with which a program is put
together by hand, and every line is read against the labels that the machine has at this moment.
Nothing of an assembly apart from the machine enters. The moments of a load are those of assembling
the lines that have arrived (`Machine.fills_iff`): no trace is left of what was there before, and
binding a label never fails, because a label that was read has a name.
-/

namespace RegisterMachine

open Source

namespace Machine

/-- The machine in the middle of a load: these lines have arrived and were taken in. -/
inductive Fills (m : Machine) : List String → Machine → Prop
  | cleared : Fills m [] { m with program := #[], labels := .empty }
  | blank {lines : List String} {line : String} {s : Machine} (h : Fills m lines s)
      (hread : readLine s.labels line = .ok .blank) : Fills m (lines ++ [line]) s
  | defect {lines : List String} {line : String} {s : Machine} {d : Defect} (h : Fills m lines s)
      (hread : readLine s.labels line = .ok (.defect d)) :
      Fills m (lines ++ [line])
        (s.note (.warning (Diagnostic.message ⟨(lines.length + 1 : Nat), d⟩)))
  | unlabelled {lines : List String} {line : String} {s : Machine} {operation : Operation}
      (h : Fills m lines s)
      (hread : readLine s.labels line = .ok (.instruction ⟨none, operation⟩)) :
      Fills m (lines ++ [line]) (s.append ⟨none, operation⟩)
  | labelled {lines : List String} {line : String} {s t : Machine} {label : String}
      {operation : Operation} (h : Fills m lines s)
      (hread : readLine s.labels line = .ok (.instruction ⟨some label, operation⟩))
      (hdefine : (s.note (.debug ("New label " ++ label ++ " at " ++ s.program.size.repr))).define
        label s.program.size = .ok t) :
      Fills m (lines ++ [line]) (t.append ⟨some label, operation⟩)

variable {m n : Machine}

/-! ### One line -/

theorem install_addDiagnostic (m : Machine) (a : Assembly) (d : Diagnostic) :
    m.install (a.addDiagnostic d) = (m.install a).note (.warning d.message) := by
  simp [install, Assembly.addDiagnostic, note]

/-- An instruction with a label is added by binding the label, which has a name, and appending. -/
theorem exists_define_install (m : Machine) (a : Assembly) {label : String} (hlabel : label ≠ "")
    (operation : Operation) :
    ∃ t, ((m.install a).note
        (.debug ("New label " ++ label ++ " at " ++ a.program.size.repr))).define label
          a.program.size = .ok t ∧
      t.append ⟨some label, operation⟩ = m.install (a.addInstruction ⟨some label, operation⟩) := by
  refine ⟨_, by rw [define, LabelTable.define, if_neg hlabel]; rfl, ?_⟩
  simp [install, Assembly.addInstruction, note, append]

/-- A label that was read has a name. -/
theorem label_ne_of_readLine {labels : LabelTable} {line label : String} {operation : Operation}
    (h : readLine labels line = .ok (.instruction ⟨some label, operation⟩)) : label ≠ "" := by
  obtain ⟨hspells, -⟩ := spells_of_readLine h
  generalize Text.strip line.toList = text at hspells
  cases hspells with
  | labelled hlabel =>
    rintro rfl
    exact hlabel.ne_nil rfl

/-! ### The moments of a load -/

/-- **A machine is filled with what the lines assemble to**, whatever it held before. -/
theorem fills_iff {lines : List String} {s : Machine} :
    m.Fills lines s ↔ ∃ a, Assembly.addLines {} 1 lines = (a, none) ∧ s = m.install a := by
  constructor
  · intro h
    induction h with
    | cleared => exact ⟨{}, rfl, by simp [install]⟩
    | blank _ hread ih =>
      obtain ⟨a, ha, rfl⟩ := ih
      exact ⟨a, Assembly.addLines_snoc_iff.2 ⟨a, _, ha, hread, rfl⟩, rfl⟩
    | defect _ hread ih =>
      obtain ⟨a, ha, rfl⟩ := ih
      exact ⟨_, Assembly.addLines_snoc_iff.2 ⟨a, _, ha, hread, rfl⟩,
        (m.install_addDiagnostic a _).symm⟩
    | unlabelled _ hread ih =>
      obtain ⟨a, ha, rfl⟩ := ih
      exact ⟨_, Assembly.addLines_snoc_iff.2 ⟨a, _, ha, hread, rfl⟩, rfl⟩
    | @labelled _ _ _ t label operation _ hread hdefine ih =>
      obtain ⟨a, ha, rfl⟩ := ih
      obtain ⟨t', hdefine', happend⟩ :=
        m.exists_define_install a (label_ne_of_readLine hread) operation
      obtain rfl : t = t' := Except.ok.inj (hdefine.symm.trans hdefine')
      exact ⟨_, Assembly.addLines_snoc_iff.2 ⟨a, _, ha, hread, rfl⟩, happend⟩
  · rintro ⟨a, ha, rfl⟩
    induction lines using List.reverseRecOn generalizing a with
    | nil =>
      obtain rfl : {} = a := congrArg Prod.fst ha
      have hcleared : m.install {} = { m with program := #[], labels := .empty } := by
        simp [install]
      rw [hcleared]
      exact .cleared
    | append_singleton lines line ih =>
      obtain ⟨b, reading, hb, hread, rfl⟩ := Assembly.addLines_snoc_iff.1 ha
      have hfills := ih b hb
      cases reading with
      | blank => exact .blank hfills hread
      | defect d =>
        rw [Assembly.addReading, install_addDiagnostic]
        exact .defect hfills hread
      | instruction i =>
        obtain ⟨- | label, operation⟩ := i
        · exact .unlabelled hfills hread
        · obtain ⟨t, hdefine, happend⟩ :=
            m.exists_define_install b (label_ne_of_readLine hread) operation
          rw [Assembly.addReading, ← happend]
          exact .labelled hfills hread hdefine

/-- All but the program, the labels and the log is the same. -/
structure SameButProgram (m n : Machine) : Prop where
  registers : n.registers = m.registers
  pc : n.pc = m.pc
  status : n.status = m.status
  trace : n.trace = m.trace
  sink : n.sink = m.sink
  offered : n.offered = m.offered
  emitted : n.emitted = m.emitted

theorem sameButProgram_install (m : Machine) (a : Assembly) : m.SameButProgram (m.install a) :=
  ⟨rfl, rfl, rfl, rfl, rfl, rfl, rfl⟩

/-- A load that breaks off ends at the moment that it has come to. -/
theorem load_of_fills {lines : List String} {s : Machine} (h : m.Fills lines s) (f : Failure) :
    m.load ⟨lines, some f⟩ = (s, .error f) := by
  obtain ⟨a, ha, rfl⟩ := fills_iff.1 h
  simp [load, assemble, ha]

end Machine

open Machine

/-- Lines that are assembled to their end are assembled up to any of them. -/
theorem Assembly.exists_addLines_take {lines : List String} {a : Assembly}
    (h : addLines {} 1 lines = (a, none)) (k : Nat) :
    ∃ b, addLines {} 1 (lines.take k) = (b, none) := by
  rw [exists_addLines_iff]
  have hlines := (exists_addLines_iff {} 1 lines).1 ⟨a, h⟩
  exact fun line hmem ↦ hlines line (List.mem_of_mem_take hmem)

/-- **Loading replaces everything.** Lines that can be assembled to their end are loaded into any
machine, from a source that ends after them or breaks off. The machine then has the program and the
labels that the lines give by themselves, and is the same in all else; the load returns the
diagnostics of the lines, or passes on what broke the source off. It is so at every moment of the
load: when a number of lines has been taken in, in place, the machine has the program and the labels
that these lines give by themselves, and where the source breaks off the load leaves it like
this. -/
theorem load_replaces (m : Machine) (source : LineSource) {fresh : Assembly}
    (h : assemble ⟨source.lines, none⟩ = (fresh, none)) :
    (∃ n, m.load source =
        (n, match source.failure? with
          | none => .ok fresh.diagnostics
          | some f => .error f) ∧
      n.program = fresh.program ∧ n.labels = fresh.labels ∧ m.SameButProgram n) ∧
    ∀ k, ∃ s part, m.Fills (source.lines.take k) s ∧
      assemble ⟨source.lines.take k, none⟩ = (part, none) ∧
      s.program = part.program ∧ s.labels = part.labels ∧ m.SameButProgram s ∧
      ∀ f, m.load ⟨source.lines.take k, some f⟩ = (s, .error f) := by
  obtain ⟨a, ha, rfl⟩ := assemble_eq_none_iff.1 h
  refine ⟨?_, fun k ↦ ?_⟩
  · obtain ⟨lines, - | f⟩ := source
    · exact ⟨m.install a.close, by rw [load, h], rfl, rfl, m.sameButProgram_install _⟩
    · exact ⟨m.install a, load_of_fills (fills_iff.2 ⟨a, ha, rfl⟩) f, rfl, rfl,
        m.sameButProgram_install a⟩
  · obtain ⟨b, hb⟩ := Assembly.exists_addLines_take ha k
    have hfills : m.Fills (source.lines.take k) (m.install b) := fills_iff.2 ⟨b, hb, rfl⟩
    exact ⟨m.install b, b.close, hfills, assemble_eq_none_iff.2 ⟨b, hb, rfl⟩, rfl, rfl,
      m.sameButProgram_install b, load_of_fills hfills⟩

/-- A source with a defective and a repeated label, which breaks off, into a machine that has
faulted and holds another program. -/
theorem load_replaces_of_leftovers :
    let m : Machine :=
      { program := #[⟨some "old", .out .eax⟩], labels := LabelTable.empty.insert "old" 7
        registers := RegisterFile.zero.set .eax 5, pc := 3
        state := .halted, haltReason? := some .fault }
    ∃ n, m.load ⟨["f: mov EAX 1", "old", "f: out EBX", "jnz EAX f"], some .interrupted⟩ =
        (n, .error .interrupted) ∧
      n.program = #[⟨some "f", .mov .eax 1⟩, ⟨none, .jnz .eax "f"⟩] ∧
      n.labels = LabelTable.empty.insert "f" 0 ∧ n.registers.get .eax = 5 ∧ n.pc = 3 ∧
      n.status = .halted .fault := by
  intro m
  let lines := ["f: mov EAX 1", "old", "f: out EBX", "jnz EAX f"]
  obtain ⟨hend, hprogram, hlabels⟩ : (assemble ⟨lines, none⟩).2 = none ∧
      (assemble ⟨lines, none⟩).1.program = #[⟨some "f", .mov .eax 1⟩, ⟨none, .jnz .eax "f"⟩] ∧
      (assemble ⟨lines, none⟩).1.labels = LabelTable.empty.insert "f" 0 := by
    decide +kernel
  obtain ⟨⟨n, hload, hn, hn', hsame⟩, -⟩ :=
    load_replaces m ⟨lines, some .interrupted⟩ (Prod.ext rfl hend)
  exact ⟨n, hload, hn.trans hprogram, hn'.trans hlabels, congrArg (·.get .eax) hsame.registers,
    hsame.pc, hsame.status⟩

end RegisterMachine
