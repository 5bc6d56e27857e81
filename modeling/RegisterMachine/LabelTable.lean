import RegisterMachine.Failure

/-!
# Label tables

A label table maps names to places in a program. A place is any integer: a table that was filled
by hand may point anywhere. The bindings are kept in ascending order of names, each name once, so
two tables with the same bindings are equal (`LabelTable.ext_get?`) and the order in which labels
were defined leaves no trace.
-/

namespace RegisterMachine

open Text

/-- A map from label names to places. -/
structure LabelTable where
  /-- The bindings in order. -/
  entries : List (String × Int)
  /-- Names ascend strictly. -/
  sorted : entries.Pairwise (·.1 < ·.1)
deriving DecidableEq

namespace LabelTable

/-- The table without bindings. -/
def empty : LabelTable := ⟨[], .nil⟩

/-- Puts a binding at its place in a list in ascending order, over an earlier one of the same
name. -/
def insertEntry (name : String) (place : Int) : List (String × Int) → List (String × Int)
  | [] => [(name, place)]
  | entry :: rest =>
    if name < entry.1 then (name, place) :: entry :: rest
    else if name = entry.1 then (name, place) :: rest
    else entry :: insertEntry name place rest

theorem lt_of_mem_insertEntry {least name : String} {place : Int} {entries : List (String × Int)}
    (hname : least < name) (h : ∀ e ∈ entries, least < e.1) :
    ∀ e ∈ insertEntry name place entries, least < e.1 := by
  induction entries with
  | nil =>
    intro e he
    exact List.eq_of_mem_singleton he ▸ hname
  | cons entry rest ih =>
    have ⟨hentry, hrest⟩ := List.forall_mem_cons.1 h
    unfold insertEntry
    split
    · exact List.forall_mem_cons.2 ⟨hname, h⟩
    · split
      · exact List.forall_mem_cons.2 ⟨hname, hrest⟩
      · exact List.forall_mem_cons.2 ⟨hentry, ih hrest⟩

theorem pairwise_insertEntry {entries : List (String × Int)}
    (h : entries.Pairwise (·.1 < ·.1)) (name : String) (place : Int) :
    (insertEntry name place entries).Pairwise (·.1 < ·.1) := by
  induction entries with
  | nil => simp [insertEntry]
  | cons entry rest ih =>
    have ⟨hentry, hrest⟩ := List.pairwise_cons.1 h
    unfold insertEntry
    split
    next hlt =>
      refine List.pairwise_cons.2 ⟨fun e he ↦ ?_, h⟩
      rcases List.mem_cons.1 he with rfl | he
      · exact hlt
      · exact String.lt_trans hlt (hentry e he)
    next hnlt =>
      split
      next heq => exact List.pairwise_cons.2 ⟨fun e he ↦ heq ▸ hentry e he, hrest⟩
      next hne =>
        have hgt : entry.1 < name := by
          rcases String.le_total name entry.1 with hle | hle
          · exact absurd (String.le_antisymm hle (String.not_lt.1 hnlt)) hne
          · exact Classical.not_not.1 fun hn ↦
              hne (String.le_antisymm (String.not_lt.1 hn) hle)
        exact List.pairwise_cons.2 ⟨lt_of_mem_insertEntry hgt hentry, ih hrest⟩

/-- Binds a name to a place, over an earlier binding of the same name. -/
def insert (table : LabelTable) (name : String) (place : Int) : LabelTable :=
  ⟨insertEntry name place table.entries, pairwise_insertEntry table.sorted name place⟩

/-- Binds a name, which must not be empty. -/
def define (table : LabelTable) (name : String) (place : Int) : Except Failure LabelTable :=
  if name = "" then .error .emptyLabel else .ok (table.insert name place)

/-- The place of a name. -/
def get? (table : LabelTable) (name : String) : Option Int := table.entries.lookup name

/-- The place of a name that has to be bound. -/
def resolve (table : LabelTable) (name : String) : Except Failure Int :=
  match table.get? name with
  | some place => .ok place
  | none => .error (.fault (.labelNotFound name))

/-- Whether a name is bound. -/
def contains (table : LabelTable) (name : String) : Bool := (table.get? name).isSome

/-- The number of bindings. -/
def size (table : LabelTable) : Nat := table.entries.length

/-- The table as a list of bindings in ascending order of names. -/
def write (table : LabelTable) : Except DigitError String :=
  (table.entries.mapM fun (name, place) ↦ (writeDecimal place).map (name ++ " -> " ++ ·)).map
    fun texts ↦ "[" ++ ", ".intercalate texts ++ "]"

/-- The table with the word for what it is. -/
def describe (table : LabelTable) : Except DigitError String :=
  table.write.map fun text ↦ "Labels(" ++ text ++ ")"

/-! ### What `get?` answers -/

theorem lookup_cons (name : String) (entry : String × Int) (rest : List (String × Int)) :
    (entry :: rest).lookup name = if name = entry.1 then some entry.2 else rest.lookup name := by
  rw [List.lookup_cons]
  by_cases h : name = entry.1
  · simp [h]
  · simp [beq_false_of_ne h, h]

/-- A name below all names of a list is not bound by it. -/
theorem lookup_eq_none_of_lt {name : String} {entries : List (String × Int)}
    (h : ∀ e ∈ entries, name < e.1) : entries.lookup name = none := by
  induction entries with
  | nil => rfl
  | cons entry rest ih =>
    have ⟨hentry, hrest⟩ := List.forall_mem_cons.1 h
    have hne : name ≠ entry.1 := fun heq ↦ String.lt_irrefl _ (heq ▸ hentry)
    rw [lookup_cons, if_neg hne, ih hrest]

theorem lookup_insertEntry (name other : String) (place : Int) (entries : List (String × Int)) :
    (insertEntry name place entries).lookup other =
      if other = name then some place else entries.lookup other := by
  induction entries with
  | nil => simp [insertEntry, lookup_cons]
  | cons entry rest ih =>
    unfold insertEntry
    split
    · rw [lookup_cons]
    · split
      next heq => simp only [lookup_cons, heq]; split <;> simp_all
      next hne =>
        rw [lookup_cons, lookup_cons, ih]
        by_cases he : other = entry.1
        · have : other ≠ name := fun h ↦ hne (h ▸ he)
          simp [he, he ▸ this]
        · simp [he]

@[simp] theorem get?_empty (name : String) : empty.get? name = none := rfl

theorem get?_insert (table : LabelTable) (name other : String) (place : Int) :
    (table.insert name place).get? other = if other = name then some place else table.get? other :=
  lookup_insertEntry name other place table.entries

/-- Lists in ascending order that bind the same names to the same places are equal. -/
theorem eq_of_lookup_eq {l₁ l₂ : List (String × Int)} (h₁ : l₁.Pairwise (·.1 < ·.1))
    (h₂ : l₂.Pairwise (·.1 < ·.1)) (h : ∀ name, l₁.lookup name = l₂.lookup name) : l₁ = l₂ := by
  induction l₁ generalizing l₂ with
  | nil =>
    cases l₂ with
    | nil => rfl
    | cons e r => simpa [lookup_cons] using h e.1
  | cons e₁ r₁ ih =>
    cases l₂ with
    | nil => simpa [lookup_cons] using h e₁.1
    | cons e₂ r₂ =>
      have ⟨hlt₁, hr₁⟩ := List.pairwise_cons.1 h₁
      have ⟨hlt₂, hr₂⟩ := List.pairwise_cons.1 h₂
      have hname : e₁.1 = e₂.1 := by
        refine String.le_antisymm (String.not_lt.1 fun hlt ↦ ?_) (String.not_lt.1 fun hlt ↦ ?_)
        · have hnone : (e₁ :: r₁).lookup e₂.1 = none := lookup_eq_none_of_lt fun e he ↦ by
            rcases List.mem_cons.1 he with rfl | he
            · exact hlt
            · exact String.lt_trans hlt (hlt₁ e he)
          have := h e₂.1
          rw [hnone, lookup_cons, if_pos rfl] at this
          exact nomatch this
        · have hnone : (e₂ :: r₂).lookup e₁.1 = none := lookup_eq_none_of_lt fun e he ↦ by
            rcases List.mem_cons.1 he with rfl | he
            · exact hlt
            · exact String.lt_trans hlt (hlt₂ e he)
          have := h e₁.1
          rw [hnone, lookup_cons, if_pos rfl] at this
          exact nomatch this
      have hplace : e₁.2 = e₂.2 := by simpa [lookup_cons, hname] using h e₁.1
      have hrest : r₁ = r₂ := ih hr₁ hr₂ fun name ↦ by
        by_cases hn : name = e₁.1
        · rw [hn, lookup_eq_none_of_lt hlt₁, hname, lookup_eq_none_of_lt hlt₂]
        · simpa [lookup_cons, hn, hname ▸ hn] using h name
      rw [Prod.ext hname hplace, hrest]

/-- Two tables that answer alike are equal. -/
theorem ext_get? {t u : LabelTable} (h : ∀ name, t.get? name = u.get? name) : t = u := by
  obtain ⟨entries, sorted⟩ := t
  have := eq_of_lookup_eq sorted u.sorted h
  subst this
  rfl

end LabelTable

end RegisterMachine
