import Mathlib.Data.List.DropRight
import Mathlib.Data.List.TakeWhile
import RegisterMachine.Text.Blank

/-!
# Words and the ends of a text

A text that is written as a run of blanks or a solid run in front of a rest falls into words
accordingly (`words_append_of_isBlank`, `words_append_of_isSolid`); this is all that is ever asked
about the words of a concrete text. Freeing a text of the blanks around it gives one that neither
starts nor ends with a blank (`isTrimmed_strip`), and leaves such a text alone
(`IsTrimmed.strip_eq`). What is left is the words of the text with blanks between them, and there is
no other way to put it together from solid tokens and blanks (`joined_strip_iff`).
-/

namespace RegisterMachine.Text

/-! ### Words -/

/-- A text without blanks, and not empty. -/
structure IsSolid (token : List Char) : Prop where
  isBlank : ∀ c ∈ token, Text.isBlank c = false
  nonempty : token ≠ []

theorem IsSolid.append {token more : List Char} (h : IsSolid token)
    (hmore : ∀ c ∈ more, Text.isBlank c = false) : IsSolid (token ++ more) := by
  refine ⟨fun c hc ↦ ?_, by simp [h.nonempty]⟩
  rcases List.mem_append.1 hc with hc | hc
  · exact h.isBlank c hc
  · exact hmore c hc

theorem words_append_of_isBlank {gap : List Char} (hgap : ∀ c ∈ gap, isBlank c = true)
    (rest : List Char) : words (gap ++ rest) = words rest := by
  induction gap with
  | nil => rfl
  | cons c gap ih =>
    rw [List.cons_append, words_cons_of_isBlank (hgap c List.mem_cons_self)]
    exact ih fun d hd ↦ hgap d (List.mem_cons_of_mem _ hd)

/-- What stands in the words of a text stands in the text. -/
theorem flatten_words_sublist (text : List Char) : (words text).flatten.Sublist text := by
  fun_induction words text with
  | case1 => exact .slnil
  | case2 c hc => exact List.nil_sublist _
  | case3 c hc => exact List.Sublist.refl _
  | case4 c d rest hc ih => exact ih.cons c
  | case5 c d rest hc hd ih => exact ih.cons_cons c
  | case6 c d rest hc hd ih =>
    cases hwords : words (d :: rest) with
    | nil => exact List.nil_sublist _
    | cons word others =>
      rw [hwords] at ih
      exact ih.cons_cons c

/-- A solid run that a blank or the end follows is a word. -/
theorem words_append_of_isSolid {token rest : List Char} (htoken : IsSolid token)
    (hrest : ∀ c ∈ rest.head?, isBlank c = true) : words (token ++ rest) = token :: words rest := by
  obtain ⟨hblank, hne⟩ := htoken
  induction token with
  | nil => exact absurd rfl hne
  | cons c token ih =>
    have hc : isBlank c = false := hblank c List.mem_cons_self
    cases token with
    | nil =>
      cases rest with
      | nil => simp [words, hc]
      | cons d rest => simp [words, hc, hrest d rfl]
    | cons d token =>
      have htail := ih (fun e he ↦ hblank e (List.mem_cons_of_mem _ he)) (by simp)
      have hd : isBlank d = false := hblank d (by simp)
      simp only [List.cons_append] at htail ⊢
      rw [words, if_neg (by simp [hc]), if_neg (by simp [hd]), htail]
      rfl

/-! ### The ends of a text -/

/-- The text neither starts nor ends with a blank. -/
structure IsTrimmed (text : List Char) : Prop where
  head : ∀ c ∈ text.head?, isBlank c = false
  getLast : ∀ c ∈ text.getLast?, isBlank c = false

theorem strip_eq_rdropWhile (text : List Char) :
    strip text = (text.dropWhile isBlank).rdropWhile isBlank := rfl

theorem isTrimmed_strip (text : List Char) : IsTrimmed (strip text) where
  head c hc := by
    have hhead : (text.dropWhile isBlank).head? = some c := by
      obtain ⟨rest, hrest⟩ := List.rdropWhile_prefix isBlank (text.dropWhile isBlank)
      rw [← hrest, List.head?_append, ← strip_eq_rdropWhile, hc, Option.some_or]
    have hnot := List.head?_dropWhile_not isBlank text
    simpa [hhead] using hnot
  getLast c hc := by
    obtain ⟨hne, rfl⟩ := List.mem_getLast?_eq_getLast hc
    have hnot := List.rdropWhile_last_not isBlank (text.dropWhile isBlank) hne
    simpa [← strip_eq_rdropWhile] using hnot

/-- A text without blanks at its ends stays as it is. -/
theorem IsTrimmed.strip_eq {text : List Char} (h : IsTrimmed text) : strip text = text := by
  have hdrop : text.dropWhile isBlank = text := by
    cases text with
    | nil => rfl
    | cons c text => simp [h.head c rfl]
  rw [strip_eq_rdropWhile, hdrop, List.rdropWhile_eq_self_iff]
  intro hne
  simp [h.getLast _ (List.getLast_mem_getLast? hne)]

/-- Blanks before a trimmed text are all that is taken off. -/
theorem IsTrimmed.strip_append {gap text : List Char} (h : IsTrimmed text)
    (hgap : ∀ c ∈ gap, isBlank c = true) : strip (gap ++ text) = text := by
  rw [strip_eq_rdropWhile, List.dropWhile_append_of_pos hgap, ← strip_eq_rdropWhile, h.strip_eq]

/-- Blanks at the front of a trimmed text are none. -/
theorem IsTrimmed.eq_nil_left {gap rest : List Char} (h : IsTrimmed (gap ++ rest))
    (hgap : ∀ c ∈ gap, isBlank c = true) : gap = [] := by
  cases gap with
  | nil => rfl
  | cons c gap => exact nomatch (h.head c rfl).symm.trans (hgap c List.mem_cons_self)

/-! ### Tokens and the gaps between them -/

/-- The text is the tokens in order, all solid, and between any two of them a gap of characters of
one kind. -/
inductive Joined (isGap : Char → Bool) : List (List Char) → List Char → Prop
  | single {token : List Char} (htoken : IsSolid token) : Joined isGap [token] token
  | cons {token gap text : List Char} {tokens : List (List Char)} (htoken : IsSolid token)
      (hgap : ∀ c ∈ gap, isGap c = true) (hne : gap ≠ []) (h : Joined isGap tokens text) :
      Joined isGap (token :: tokens) (token ++ (gap ++ text))

namespace Joined

variable {isGap : Char → Bool} {tokens : List (List Char)} {text : List Char}

theorem tokens_ne_nil (h : Joined isGap tokens text) : tokens ≠ [] := by
  cases h <;> simp

/-- A text of tokens starts with a token. -/
theorem exists_head (h : Joined isGap tokens text) :
    ∃ c rest, isBlank c = false ∧ text = c :: rest := by
  obtain ⟨token, rest, htoken, rfl⟩ : ∃ token rest, IsSolid token ∧ text = token ++ rest := by
    cases h with
    | single htoken => exact ⟨text, [], htoken, by simp⟩
    | cons htoken => exact ⟨_, _, htoken, rfl⟩
  obtain ⟨hblank, hne⟩ := htoken
  cases token with
  | nil => exact absurd rfl hne
  | cons c token => exact ⟨c, token ++ rest, hblank c List.mem_cons_self, rfl⟩

/-- One more character at the front belongs to the first token. -/
theorem cons_char {c : Char} (hc : isBlank c = false) (h : Joined isGap tokens text) :
    Joined isGap (tokens.modifyHead (c :: ·)) (c :: text) := by
  have hsolid : ∀ {token}, IsSolid token → IsSolid (c :: token) := fun {token} htoken ↦
    ⟨List.forall_mem_cons.2 ⟨hc, htoken.isBlank⟩, by simp⟩
  cases h with
  | single htoken => exact single (hsolid htoken)
  | cons htoken hgap hne h => exact cons (hsolid htoken) hgap hne h

/-- The words of a text of tokens are the tokens. Blanks after the last token do not matter. -/
theorem words_append (h : Joined isBlank tokens text) {back : List Char}
    (hback : ∀ c ∈ back, isBlank c = true) : words (text ++ back) = tokens := by
  induction h with
  | single htoken =>
    rw [words_append_of_isSolid htoken fun c hc ↦ hback c (List.mem_of_mem_head? hc)]
    rw [← List.append_nil back, words_append_of_isBlank hback, words_nil]
  | @cons token gap text tokens htoken hgap hne _ ih =>
    have hhead : ∀ c ∈ (gap ++ (text ++ back)).head?, isBlank c = true := by
      rw [List.head?_append_of_ne_nil _ hne]
      exact fun c hc ↦ hgap c (List.mem_of_mem_head? hc)
    rw [List.append_assoc, List.append_assoc, words_append_of_isSolid htoken hhead,
      words_append_of_isBlank hgap, ih]

end Joined

/-- A text that does not end with a blank is its words, after some blanks. -/
theorem exists_joined_words {text : List Char} (hne : text ≠ [])
    (hlast : ∀ c ∈ text.getLast?, isBlank c = false) :
    ∃ gap body, (∀ c ∈ gap, isBlank c = true) ∧ text = gap ++ body ∧
      Joined isBlank (words text) body := by
  fun_induction words text with
  | case1 => exact absurd rfl hne
  | case2 c hc => exact absurd hc (by simp [hlast c rfl])
  | case3 c hc => exact ⟨[], [c], by simp, rfl, .single ⟨by simpa using hc, by simp⟩⟩
  | case4 c d rest hc ih =>
    obtain ⟨gap, body, hgap, htext, hbody⟩ := ih (by simp) (by simpa using hlast)
    exact ⟨c :: gap, body, List.forall_mem_cons.2 ⟨hc, hgap⟩, by rw [htext]; rfl, hbody⟩
  | case5 c d rest hc hd ih =>
    obtain ⟨gap, body, hgap, htext, hbody⟩ := ih (by simp) (by simpa using hlast)
    have hsolid : IsSolid [c] := ⟨by simpa using hc, by simp⟩
    have hgap_ne : gap ≠ [] := by
      rintro rfl
      obtain ⟨e, others, he, rfl⟩ := hbody.exists_head
      obtain ⟨rfl, -⟩ := List.cons.inj htext
      exact nomatch hd.symm.trans he
    exact ⟨[], [c] ++ (gap ++ body), by simp, by rw [← htext]; rfl,
      .cons hsolid hgap hgap_ne hbody⟩
  | case6 c d rest hc hd ih =>
    obtain ⟨gap, body, hgap, htext, hbody⟩ := ih (by simp) (by simpa using hlast)
    cases gap with
    | nil =>
      have hchar := hbody.cons_char (Bool.eq_false_iff.2 hc)
      exact ⟨[], c :: body, by simp, by rw [htext]; rfl, hchar⟩
    | cons e gap =>
      obtain ⟨rfl, -⟩ := List.cons.inj htext
      exact absurd (hgap d List.mem_cons_self) hd

/-- A text is what is left of it without the blanks around it, and these blanks. -/
theorem exists_append_strip (text : List Char) :
    ∃ front back, (∀ c ∈ front, isBlank c = true) ∧ (∀ c ∈ back, isBlank c = true) ∧
      text = front ++ (strip text ++ back) := by
  refine ⟨text.takeWhile isBlank, (text.dropWhile isBlank).rtakeWhile isBlank,
    fun c hc ↦ List.mem_takeWhile_imp hc, fun c hc ↦ List.mem_rtakeWhile_imp hc, ?_⟩
  rw [strip_eq_rdropWhile, List.rdropWhile_append_rtakeWhile, List.takeWhile_append_dropWhile]

/-- **A text is put together from its words**, and from no other tokens, once the blanks around it
are gone. -/
theorem joined_strip_iff {text : List Char} {tokens : List (List Char)} :
    Joined isBlank tokens (strip text) ↔ tokens = words text ∧ tokens ≠ [] := by
  obtain ⟨front, back, hfront, hback, htext⟩ := exists_append_strip text
  have hwords : ∀ {tokens}, Joined isBlank tokens (strip text) → words text = tokens := by
    intro tokens h
    rw [htext, words_append_of_isBlank hfront, h.words_append hback]
  refine ⟨fun h ↦ ⟨(hwords h).symm, h.tokens_ne_nil⟩, ?_⟩
  rintro ⟨rfl, hne⟩
  have hstrip : strip text ≠ [] := by
    intro hnil
    rw [hnil, List.nil_append, ← List.append_nil back] at htext
    rw [htext, words_append_of_isBlank hfront, words_append_of_isBlank hback] at hne
    exact hne rfl
  have htrimmed := isTrimmed_strip text
  obtain ⟨gap, body, hgap, hbody, h⟩ := exists_joined_words hstrip htrimmed.getLast
  rw [hbody] at htrimmed
  obtain rfl := htrimmed.eq_nil_left hgap
  rw [List.nil_append] at hbody
  rw [← hbody] at h
  rwa [hwords h]

end RegisterMachine.Text
