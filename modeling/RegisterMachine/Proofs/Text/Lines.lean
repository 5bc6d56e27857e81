import RegisterMachine.Proofs.Text.Words
import RegisterMachine.Text.LineBreak

/-!
# Texts of several lines

Lines can be put into one text with any of the three line ends, and with or without one after the
last line. They are cut apart again as they were, **whatever the line end**, provided that none of
them contains a line break (`fileLines_ended`). Only at the end of the text a line can be lost or
gained, and it is empty then (`fileLines_join`): a break ends a line and does not start one, so an
empty line without an end is none, and an end without a line is an empty one.
-/

namespace RegisterMachine.Text

/-! ### Texts of one line -/

/-- The text has no line break. -/
def IsInline (text : List Char) : Prop := ∀ c ∈ text, isLineBreak c = false

instance (text : List Char) : Decidable (IsInline text) :=
  List.decidableBAll (isLineBreak · = false) text

/-- Every line break is a blank. -/
theorem isLineBreak_of_isBlank_eq_false {c : Char} (h : isBlank c = false) :
    isLineBreak c = false := by
  simp only [isBlank, isLineBreak, Bool.or_eq_false_iff, Bool.and_eq_false_iff,
    decide_eq_false_iff_not, beq_eq_false_iff_ne, Nat.not_le] at h ⊢
  omega

theorem IsSolid.isInline {token : List Char} (h : IsSolid token) : IsInline token :=
  fun c hc ↦ isLineBreak_of_isBlank_eq_false (h.isBlank c hc)

theorem IsInline.append {text more : List Char} (h : IsInline text) (hmore : IsInline more) :
    IsInline (text ++ more) := by
  intro c hc
  rcases List.mem_append.1 hc with hc | hc
  · exact h c hc
  · exact hmore c hc

/-! ### Cutting a text into lines -/

/-- A text without line breaks is its only line. -/
theorem splitLines_of_isInline {text : List Char} (h : IsInline text) (hne : text ≠ []) :
    splitLines text = [text] := by
  induction text with
  | nil => exact absurd rfl hne
  | cons c text ih =>
    have hc : isLineBreak c = false := h c List.mem_cons_self
    rw [splitLines, if_neg (by simp [hc])]
    cases text with
    | nil => rfl
    | cons d text => rw [ih (fun e he ↦ h e (List.mem_cons_of_mem _ he)) (by simp)]

/-- What stands before the first line break is the first line. -/
theorem splitLines_append_cons {text : List Char} (h : IsInline text) {c : Char}
    (hc : isLineBreak c = true) (rest : List Char) :
    splitLines (text ++ c :: rest) = text :: splitLines rest := by
  induction text with
  | nil => exact splitLines_cons_of_isLineBreak hc rest
  | cons d text ih =>
    have hd : isLineBreak d = false := h d List.mem_cons_self
    rw [List.cons_append, splitLines, if_neg (by simp [hd]),
      ih fun e he ↦ h e (List.mem_cons_of_mem _ he)]

/-- Lines that have an end are cut off one by one. -/
theorem splitLines_ended {lines : List (List Char)} (h : ∀ line ∈ lines, IsInline line)
    (rest : List Char) :
    splitLines (lines.flatMap (· ++ ['\n']) ++ rest) = lines ++ splitLines rest := by
  induction lines with
  | nil => rfl
  | cons line lines ih =>
    obtain ⟨hline, hlines⟩ := List.forall_mem_cons.1 h
    simp only [List.flatMap_cons, List.append_assoc, List.cons_append, List.nil_append]
    rw [splitLines_append_cons hline (by decide), ih hlines]

/-! ### Line ends in a file -/

/-- How the lines of a file end. -/
inductive LineEnd where
  | lineFeed
  | carriageReturn
  /-- A carriage return and a line feed. -/
  | both
deriving DecidableEq, Repr

/-- The characters that end a line. -/
def LineEnd.text : LineEnd → String
  | lineFeed => "\n"
  | carriageReturn => "\r"
  | both => "\r\n"

theorem IsInline.notMem {text : List Char} (h : IsInline text) {c : Char}
    (hc : isLineBreak c = true) : c ∉ text :=
  fun hmem ↦ absurd (h c hmem) (by simp [hc])

/-- What has no carriage return stays as it is. -/
theorem unifyBreaks_append {text : List Char} (h : '\r' ∉ text) (rest : List Char) :
    unifyBreaks (text ++ rest) = text ++ unifyBreaks rest := by
  induction text with
  | nil => rfl
  | cons c text ih =>
    obtain ⟨hc, htext⟩ := not_or.1 (mt List.mem_cons.2 h)
    have hcons : unifyBreaks (c :: (text ++ rest)) = c :: unifyBreaks (text ++ rest) := by
      rw [unifyBreaks] <;> simp [Ne.symm hc]
    rw [List.cons_append, hcons, ih htext, List.cons_append]

/-- A line end becomes a line feed. A lone carriage return must not stand before a line feed, which
would belong to it. -/
theorem LineEnd.unifyBreaks_text_append {e : LineEnd} {rest : List Char}
    (h : e = .carriageReturn → rest.head? ≠ some '\n') :
    unifyBreaks (e.text.toList ++ rest) = '\n' :: unifyBreaks rest := by
  cases e with
  | lineFeed => exact unifyBreaks_append (show '\r' ∉ ['\n'] by decide) rest
  | both => rfl
  | carriageReturn =>
    cases rest with
    | nil => rfl
    | cons c rest =>
      have hc : c ≠ '\n' := by simpa using h rfl
      show unifyBreaks ('\r' :: c :: rest) = _
      rw [unifyBreaks]
      simp [hc]

/-- Without a line feed in the lines, carriage returns bring none about. -/
theorem notMem_ended {lines : List (List Char)} (h : ∀ line ∈ lines, IsInline line)
    {last : List Char} (hlast : IsInline last) :
    '\n' ∉ lines.flatMap (· ++ ['\r']) ++ last := by
  have hbreak : isLineBreak '\n' = true := by decide
  simp only [List.mem_append, List.mem_flatMap, List.mem_singleton, not_or, not_exists, not_and]
  exact ⟨fun line hline ↦ ⟨(h line hline).notMem hbreak, by decide⟩, hlast.notMem hbreak⟩

/-- Line ends of any kind become line feeds, and the lines stay. -/
theorem LineEnd.unifyBreaks_ended (e : LineEnd) {lines : List (List Char)}
    (h : ∀ line ∈ lines, IsInline line) {last : List Char} (hlast : IsInline last) :
    unifyBreaks (lines.flatMap (· ++ e.text.toList) ++ last) =
      lines.flatMap (· ++ ['\n']) ++ last := by
  have hbreak : isLineBreak '\r' = true := by decide
  induction lines with
  | nil =>
    have hunify := unifyBreaks_append (hlast.notMem hbreak) []
    rwa [unifyBreaks, List.append_nil] at hunify
  | cons line lines ih =>
    obtain ⟨hline, hlines⟩ := List.forall_mem_cons.1 h
    simp only [List.flatMap_cons, List.append_assoc]
    rw [unifyBreaks_append (hline.notMem hbreak), unifyBreaks_text_append, ih hlines]
    · rfl
    · rintro rfl hhead
      exact notMem_ended hlines hlast (List.mem_of_mem_head? hhead)

/-- **Lines are cut apart as they were, whatever the line end.** What stands behind the last line
end is a line unless it is empty. -/
theorem fileLines_ended (e : LineEnd) {lines : List String}
    (h : ∀ line ∈ lines, IsInline line.toList) {last : String} (hlast : IsInline last.toList) :
    fileLines (lines.flatMap (·.toList ++ e.text.toList) ++ last.toList) =
      lines ++ if last = "" then [] else [last] := by
  have hchars : ∀ line ∈ lines.map String.toList, IsInline line := List.forall_mem_map.2 h
  have hunify := e.unifyBreaks_ended hchars hlast
  rw [List.flatMap_map] at hunify
  have hback : (lines.map String.toList).map String.ofList = lines := by
    rw [List.map_map]
    exact List.map_id'' (fun line ↦ String.ofList_toList) lines
  rw [fileLines, hunify, splitLines_ended hchars, List.map_append, hback]
  split
  next hempty => simp [hempty]
  next hempty =>
    rw [splitLines_of_isInline hlast (by simpa using hempty), List.map_singleton,
      String.ofList_toList]

/-! ### Lines that are joined -/

/-- Lines that are joined have an end each, but for the last. -/
theorem toList_intercalate_concat (e : LineEnd) (lines : List String) (last : String) :
    (e.text.intercalate (lines ++ [last])).toList =
      lines.flatMap (·.toList ++ e.text.toList) ++ last.toList := by
  rw [String.toList_intercalate]
  induction lines with
  | nil => simp
  | cons line lines ih =>
    have hne : (lines ++ [last]).map String.toList ≠ [] := by simp
    rw [List.cons_append, List.map_cons, List.intercalate_cons_of_ne_nil hne, ih]
    simp

/-- **Lines that are joined fall apart as they were.** -/
theorem fileLines_intercalate {lines : List String}
    (h : ∀ line ∈ lines, IsInline line.toList ∧ line.toList ≠ []) :
    fileLines ("\n".intercalate lines).toList = lines := by
  rcases List.eq_nil_or_concat' lines with rfl | ⟨lines, last, rfl⟩
  · rfl
  · obtain ⟨hlines, hlast⟩ := List.forall_mem_append.1 h
    obtain ⟨hinline, hne⟩ := hlast last List.mem_cons_self
    have hfile := fileLines_ended .lineFeed (fun line hline ↦ (hlines line hline).1) hinline
    rwa [← toList_intercalate_concat, if_neg (by simpa using hne)] at hfile

/-- The lines with their ends, as a text: the last line has one only if the text is closed. -/
def LineEnd.join (e : LineEnd) (closed : Bool) (lines : List String) : String :=
  e.text.intercalate lines ++ if closed then e.text else ""

/-- The same lines, but for an empty one at the end of one of the lists. -/
inductive SameLines : List String → List String → Prop
  | refl (lines : List String) : SameLines lines lines
  | lost (lines : List String) : SameLines lines (lines ++ [""])
  | gained (lines : List String) : SameLines (lines ++ [""]) lines

/-- **Joined lines are found in the text again**, but for an empty line at the end, which may be
lost or gained. -/
theorem fileLines_join (e : LineEnd) (closed : Bool) {lines : List String}
    (h : ∀ line ∈ lines, IsInline line.toList) :
    SameLines (fileLines (e.join closed lines).toList) lines := by
  have hempty : IsInline "".toList := by decide
  rcases List.eq_nil_or_concat' lines with rfl | ⟨lines, last, rfl⟩
  · cases closed with
    | false => exact .refl []
    | true =>
      -- an end without a line
      have hfile : fileLines e.text.toList = [""] := by
        simpa using fileLines_ended e (show ∀ line ∈ [""], IsInline line.toList by decide) hempty
      have htext : (e.join true []).toList = e.text.toList := by simp [LineEnd.join]
      rw [htext, hfile]
      exact .gained []
  · obtain ⟨hlines, hlast⟩ := List.forall_mem_append.1 h
    rw [LineEnd.join, String.toList_append, toList_intercalate_concat]
    cases closed with
    | true =>
      have hfile := fileLines_ended e h hempty
      rw [List.flatMap_append, List.flatMap_singleton, ← List.append_assoc] at hfile
      simp only [if_true, String.toList_empty, List.append_nil] at hfile ⊢
      rw [hfile]
      exact .refl _
    | false =>
      have hfile := fileLines_ended e hlines (hlast last List.mem_cons_self)
      simp only [Bool.false_eq_true, if_false, String.toList_empty, List.append_nil]
      rw [hfile]
      split
      next hlost => simpa [hlost] using SameLines.lost lines
      next => exact .refl _

end RegisterMachine.Text
