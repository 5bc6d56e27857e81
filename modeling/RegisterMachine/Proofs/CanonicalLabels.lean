import RegisterMachine.LabelTable
import RegisterMachine.Proofs.Source.Token
import RegisterMachine.Proofs.Text.Decimal

/-!
# Label tables and their texts

A table is filled by changes: labels are defined, some of them again, and now and then all are taken
back. Two histories of changes lead to the same table exactly if they leave every name at the same
place, and exactly if the two tables are written alike: **the text of a table is a canonical form**
(`write_canonical`).

Both halves have one idea each. What a history leaves a name at can be read off its end
(`lastPlace?`), and a change alters it as it alters the table (`Change.exists_apply`). And a text
can be taken apart again (`eq_of_followingText_eq`), since a comma stands only between two bindings
and a blank only around an arrow. The second needs names without commas and blanks; an identifier is
such a name.
-/

namespace RegisterMachine.LabelTable

open Source Text

/-! ### Bindings that can be written -/

/-- A binding in the list is the one that is found: no name is bound twice. -/
theorem get?_of_mem {table : LabelTable} {name : String} {place : Int}
    (h : (name, place) ∈ table.entries) : table.get? name = some place := by
  obtain ⟨entries, sorted⟩ := table
  rw [get?]
  dsimp only at h ⊢
  induction entries with
  | nil => exact nomatch h
  | cons entry rest ih =>
    obtain ⟨hentry, hrest⟩ := List.pairwise_cons.1 sorted
    rw [lookup_cons]
    rcases List.mem_cons.1 h with rfl | h
    · rw [if_pos rfl]
    · have hne : name ≠ entry.1 := fun heq ↦ String.lt_irrefl _ (heq ▸ hentry _ h)
      rw [if_neg hne]
      exact ih hrest h

/-- A binding as it is written. -/
def entryText (entry : String × Int) : String := entry.1 ++ " -> " ++ decimal entry.2

/-- A table whose places can be written is written binding by binding. -/
theorem write_eq {table : LabelTable}
    (h : ∀ name place, table.get? name = some place → place.natAbs < digitBound) :
    table.write = .ok ("[" ++ ", ".intercalate (table.entries.map entryText) ++ "]") := by
  have hentries : table.entries.mapM
      (fun (name, place) ↦ (writeDecimal place).map (name ++ " -> " ++ ·)) =
        .ok (table.entries.map entryText) := by
    refine mapM_eq_ok_map fun ⟨name, place⟩ hmem ↦ ?_
    have hplace := writeDecimal_eq_ok_iff.2 ⟨h name place (get?_of_mem hmem), rfl⟩
    simp only [hplace]
    rfl
  rw [write, hentries]
  rfl

/-! ### Histories -/

/-- A change of a table. -/
inductive Change where
  | define (name : String) (place : Int)
  /-- Takes all labels back. -/
  | reset
deriving DecidableEq, Repr

namespace Change

/-- Makes a change. -/
def apply (table : LabelTable) : Change → Except Failure LabelTable
  | define name place => table.define name place
  | reset => .ok .empty

/-- The place that a name is given, if it is. -/
def place? (name : String) : Change → Option Int
  | define other place => if other = name then some place else none
  | reset => none

/-- If a name is given a place, the name is an identifier and the place can be written. -/
def IsPlain : Change → Prop
  | define name place => IsIdentifier name.toList ∧ place.natAbs < digitBound
  | reset => True

instance (change : Change) : Decidable change.IsPlain :=
  match change with
  | define name place =>
    inferInstanceAs (Decidable (IsIdentifier name.toList ∧ place.natAbs < digitBound))
  | reset => .isTrue trivial

end Change

/-- The table that changes of an empty one lead to. -/
def ofChanges (changes : List Change) : Except Failure LabelTable :=
  changes.foldlM Change.apply .empty

/-- The place that a name was given last, if it was after the last reset. -/
def lastPlace? (changes : List Change) (name : String) : Option Int :=
  (changes.reverse.takeWhile (· ≠ .reset)).findSome? (Change.place? name)

theorem lastPlace?_concat_define (changes : List Change) (name other : String) (place : Int) :
    lastPlace? (changes ++ [.define name place]) other =
      if other = name then some place else lastPlace? changes other := by
  by_cases h : name = other
  · simp [lastPlace?, Change.place?, h]
  · simp [lastPlace?, Change.place?, h, Ne.symm h]

theorem lastPlace?_concat_reset (changes : List Change) (name : String) :
    lastPlace? (changes ++ [.reset]) name = none := by
  simp [lastPlace?]

theorem mem_of_lastPlace? {changes : List Change} {name : String} {place : Int}
    (h : lastPlace? changes name = some place) : .define name place ∈ changes := by
  obtain ⟨change, hmem, hplace⟩ := List.exists_of_findSome?_eq_some h
  have hchange : change ∈ changes :=
    List.mem_reverse.1 ((List.takeWhile_sublist _).subset hmem)
  cases change with
  | reset => exact nomatch hplace
  | define other given =>
    obtain ⟨rfl, rfl⟩ : other = name ∧ given = place := by
      simpa [Change.place?] using hplace
    exact hchange

/-- What a plain change does to the place of a name. -/
theorem Change.exists_apply {change : Change} (h : change.IsPlain) (changes : List Change)
    {table : LabelTable} (htable : ∀ name, table.get? name = lastPlace? changes name) :
    ∃ next, change.apply table = .ok next ∧
      ∀ name, next.get? name = lastPlace? (changes ++ [change]) name := by
  cases change with
  | reset => exact ⟨.empty, rfl, fun name ↦ by rw [lastPlace?_concat_reset, get?_empty]⟩
  | define name place =>
    have hne : name ≠ "" := fun heq ↦ h.1.ne_nil (by rw [heq]; rfl)
    refine ⟨table.insert name place, by rw [apply, LabelTable.define, if_neg hne], fun other ↦ ?_⟩
    rw [get?_insert, lastPlace?_concat_define, htable]

/-- **A history of plain changes leads to a table**, and the table has for every name the place that
the history leaves it at. -/
theorem exists_ofChanges {changes : List Change} (h : ∀ change ∈ changes, change.IsPlain) :
    ∃ table, ofChanges changes = .ok table ∧
      ∀ name, table.get? name = lastPlace? changes name := by
  induction changes using List.reverseRecOn with
  | nil => exact ⟨.empty, rfl, fun _ ↦ rfl⟩
  | append_singleton changes change ih =>
    obtain ⟨hchanges, hchange⟩ := List.forall_mem_append.1 h
    obtain ⟨table, hof, htable⟩ := ih hchanges
    obtain ⟨next, happly, hnext⟩ :=
      Change.exists_apply (hchange change List.mem_cons_self) changes htable
    refine ⟨next, ?_, hnext⟩
    rw [ofChanges] at hof
    rw [ofChanges, List.foldlM_append, hof]
    simp [bind, Except.bind, pure, Except.pure, happly]

/-- A table that plain changes lead to binds identifiers to places that can be written. -/
theorem isPlain_of_get? {changes : List Change} (h : ∀ change ∈ changes, change.IsPlain)
    {table : LabelTable} (htable : ∀ name, table.get? name = lastPlace? changes name)
    {name : String} {place : Int} (hplace : table.get? name = some place) :
    (Change.define name place).IsPlain :=
  h _ (mem_of_lastPlace? ((htable name).symm.trans hplace))

/-! ### Taking a text apart -/

/-- All names are identifiers. -/
def IsNamed (entries : List (String × Int)) : Prop :=
  ∀ entry ∈ entries, IsIdentifier entry.1.toList

theorem toList_entryText (entry : String × Int) :
    (entryText entry).toList = entry.1.toList ++ (" -> ".toList ++ (decimal entry.2).toList) := by
  simp [entryText]

/-- A name ends at the blank before the arrow, and what stands behind the arrow tells the place. -/
theorem eq_of_entryText_eq {entry entry' : String × Int} (h : IsIdentifier entry.1.toList)
    (h' : IsIdentifier entry'.1.toList) (heq : entryText entry = entryText entry') :
    entry = entry' := by
  have hchars := congrArg String.toList heq
  rw [toList_entryText, toList_entryText] at hchars
  obtain ⟨hname, hplace⟩ :=
    append_inj_of_startsWith h.isIdentChar h'.isIdentChar rfl rfl hchars
  have hdecimal := String.toList_inj.1 (List.append_cancel_left hplace)
  exact Prod.ext (String.toList_inj.1 hname) (eq_of_decimal_eq hdecimal)

/-- There is no comma in a binding. -/
theorem ne_comma_of_mem_entryText {entry : String × Int} (h : IsIdentifier entry.1.toList)
    {c : Char} (hc : c ∈ (entryText entry).toList) : c ≠ ',' := by
  rintro rfl
  rw [toList_entryText] at hc
  rcases List.mem_append.1 hc with hc | hc
  · exact absurd (h.isIdentChar _ hc) (by decide)
  · rcases List.mem_append.1 hc with hc | hc
    · exact absurd hc (by decide)
    · exact absurd (mem_decimal hc) (by decide)

/-- The bindings as they stand behind another one. -/
def followingText (entries : List (String × Int)) : List Char :=
  entries.flatMap fun entry ↦ ", ".toList ++ (entryText entry).toList

theorem followingText_cons (entry : String × Int) (entries : List (String × Int)) :
    followingText (entry :: entries) =
      ", ".toList ++ ((entryText entry).toList ++ followingText entries) := by
  simp [followingText]

theorem startsWith_followingText (entries : List (String × Int)) :
    startsWith (· != ',') (followingText entries) = false := by
  cases entries with
  | nil => rfl
  | cons entry entries => rfl

/-- **The text of bindings tells the bindings**: each ends at the next comma. -/
theorem eq_of_followingText_eq {entries entries' : List (String × Int)} (h : IsNamed entries)
    (h' : IsNamed entries') (heq : followingText entries = followingText entries') :
    entries = entries' := by
  induction entries generalizing entries' with
  | nil =>
    cases entries' with
    | nil => rfl
    | cons entry' entries' => exact nomatch heq
  | cons entry entries ih =>
    cases entries' with
    | nil => exact nomatch heq
    | cons entry' entries' =>
      obtain ⟨hentry, hentries⟩ := List.forall_mem_cons.1 h
      obtain ⟨hentry', hentries'⟩ := List.forall_mem_cons.1 h'
      rw [followingText_cons, followingText_cons] at heq
      obtain ⟨htext, hfollowing⟩ := append_inj_of_startsWith
        (fun c hc ↦ bne_iff_ne.2 (ne_comma_of_mem_entryText hentry hc))
        (fun c hc ↦ bne_iff_ne.2 (ne_comma_of_mem_entryText hentry' hc))
        (startsWith_followingText entries) (startsWith_followingText entries')
        (List.append_cancel_left heq)
      rw [eq_of_entryText_eq hentry hentry' (String.toList_inj.1 htext),
        ih hentries hentries' hfollowing]

/-- The first binding of a table has no comma in front. -/
theorem toList_intercalate_entryText (entry : String × Int) (entries : List (String × Int)) :
    (", ".intercalate ((entry :: entries).map entryText)).toList =
      (entryText entry).toList ++ followingText entries := by
  rw [String.toList_intercalate]
  induction entries generalizing entry with
  | nil => simp [followingText]
  | cons next entries ih =>
    simp only [List.map_cons, List.intercalate_cons_cons] at ih ⊢
    rw [ih, followingText_cons, List.append_assoc]

theorem intercalate_entryText_ne_empty (entry : String × Int) (entries : List (String × Int)) :
    ", ".intercalate ((entry :: entries).map entryText) ≠ "" := by
  intro h
  have hchars := congrArg String.toList h
  rw [toList_intercalate_entryText, toList_entryText] at hchars
  simp at hchars

theorem eq_of_intercalate_eq {entries entries' : List (String × Int)} (h : IsNamed entries)
    (h' : IsNamed entries')
    (heq : ", ".intercalate (entries.map entryText) = ", ".intercalate (entries'.map entryText)) :
    entries = entries' := by
  cases entries with
  | nil =>
    cases entries' with
    | nil => rfl
    | cons entry' entries' => exact absurd heq.symm (intercalate_entryText_ne_empty entry' entries')
  | cons entry entries =>
    cases entries' with
    | nil => exact absurd heq (intercalate_entryText_ne_empty entry entries)
    | cons entry' entries' =>
      refine eq_of_followingText_eq h h' ?_
      rw [followingText_cons, followingText_cons, ← toList_intercalate_entryText, heq,
        toList_intercalate_entryText]

/-! ### The canonical form -/

/-- **The text of a table is a canonical form.** Two histories of changes give names that are
identifiers places that can be written. They lead to two tables, and both tables are written. The
tables are equal exactly if the histories leave every name at the same place, or both leave it
without one; and exactly if the two texts are equal. -/
theorem write_canonical {first second : List Change}
    (hfirst : ∀ change ∈ first, change.IsPlain) (hsecond : ∀ change ∈ second, change.IsPlain) :
    ∃ t u text text', ofChanges first = .ok t ∧ ofChanges second = .ok u ∧
      t.write = .ok text ∧ u.write = .ok text' ∧
      (t = u ↔ ∀ name, lastPlace? first name = lastPlace? second name) ∧
      (t = u ↔ text = text') := by
  obtain ⟨t, ht, hplaces⟩ := exists_ofChanges hfirst
  obtain ⟨u, hu, hplaces'⟩ := exists_ofChanges hsecond
  have hplain := fun {name place} ↦ @isPlain_of_get? first hfirst t hplaces name place
  have hplain' := fun {name place} ↦ @isPlain_of_get? second hsecond u hplaces' name place
  refine ⟨t, u, _, _, ht, hu, write_eq fun name place h ↦ (hplain h).2,
    write_eq fun name place h ↦ (hplain' h).2, ?_, ?_⟩
  · constructor
    · rintro rfl name
      rw [← hplaces, hplaces']
    · intro hsame
      refine ext_get? fun name ↦ ?_
      rw [hplaces, hplaces', hsame]
  · constructor
    · rintro rfl
      rfl
    · intro htext
      have hentries : t.entries = u.entries := by
        refine eq_of_intercalate_eq (fun entry hmem ↦ (hplain (get?_of_mem hmem)).1)
          (fun entry hmem ↦ (hplain' (get?_of_mem hmem)).1) ?_
        exact (String.append_right_inj _).1 ((String.append_left_inj _).1 htext)
      exact ext_get? fun name ↦ congrArg (List.lookup name) hentries

/-- A label that is taken back and defined twice, and two labels in alphabetical order. -/
theorem write_canonical_of_reset :
    let first : List Change :=
      [.define "loop" 5, .define "x" 9, .reset, .define "loop" 1, .define "end" (-3),
        .define "loop" 2]
    let second : List Change := [.define "end" (-3), .define "loop" 2]
    (∀ change ∈ first ++ second, change.IsPlain) ∧
      ∃ t, ofChanges first = .ok t ∧ ofChanges second = .ok t ∧
        t.write = .ok "[end -> -3, loop -> 2]" := by
  intro first second
  have hplain : ∀ change ∈ first ++ second, change.IsPlain := by decide +kernel
  obtain ⟨hfirst, hsecond⟩ := List.forall_mem_append.1 hplain
  obtain ⟨t, u, text, text', ht, hu, -, -, hplaces, -⟩ := write_canonical hfirst hsecond
  obtain rfl : t = u := hplaces.2 fun name ↦ by
    have hlast : first.reverse.takeWhile (· ≠ .reset) =
      [.define "loop" 2, .define "end" (-3), .define "loop" 1] := by decide
    have hlast' : second.reverse.takeWhile (· ≠ .reset) =
      [.define "loop" 2, .define "end" (-3)] := by decide
    rw [lastPlace?, lastPlace?, hlast, hlast']
    by_cases hloop : "loop" = name
    · simp [Change.place?, hloop]
    · by_cases hend : "end" = name <;> simp [Change.place?, hloop, hend]
  refine ⟨hplain, t, ht, hu, ?_⟩
  have hwrite : (ofChanges second).toOption.map (·.write.toOption) =
    some (some "[end -> -3, loop -> 2]") := by decide +kernel
  rw [hu] at hwrite
  change some t.write.toOption = _ at hwrite
  cases htext : t.write with
  | error e =>
    rw [htext] at hwrite
    exact nomatch hwrite
  | ok text =>
    rw [htext] at hwrite
    exact congrArg Except.ok (Option.some.inj (Option.some.inj hwrite))

end RegisterMachine.LabelTable
