import Mathlib.Data.List.Forall2
import RegisterMachine.Text.Utf8

/-!
# Reading what was written

Every text can be written as octets, and **the reader gives it back** (`decode_encode`). The reader
knows of the writer only by its table of first octets, so the two are compared character by
character: a character is written in one of four forms, by the size of its code, and for each form
the table gives the bits of the first octet and the ranges that the others have to meet
(`leadOf?_two`, `leadOf?_three`, `leadOf?_four`). The narrow ranges after some first octets never
turn a character away, because its form is the shortest and its code is no surrogate.
-/

namespace RegisterMachine.Text.Utf8

/-! ### First octets -/

theorem leadOf?_one : ∀ n < 0x80, leadOf? (.ofNat n) = some (n, []) := by decide

theorem leadOf?_two : ∀ n < 0x20, 2 ≤ n →
    leadOf? (.ofNat (n + 0xC0)) = some (n, [.continuation]) := by decide

/-- The range of the second octet, by the bits `n` of the first: it starts later after the least
first octet, and ends earlier after the one with the bits `top`. -/
def secondRange (low : UInt8) (top : Nat) (high : UInt8) (n : Nat) : OctetRange :=
  if n = 0 then ⟨low, 0xBF⟩ else if n = top then ⟨0x80, high⟩ else .continuation

theorem leadOf?_three : ∀ n < 0x10,
    leadOf? (.ofNat (n + 0xE0)) = some (n, [secondRange 0xA0 0xD 0x9F n, .continuation]) := by
  decide

theorem leadOf?_four : ∀ n < 5, leadOf? (.ofNat (n + 0xF0)) =
    some (n, [secondRange 0x90 4 0x8F n, .continuation, .continuation]) := by decide

/-! ### Other octets -/

theorem contains_ofNat_iff {range : OctetRange} {n : Nat} (h : n < 0x100) :
    range.contains (.ofNat n) = true ↔ range.first.toNat ≤ n ∧ n ≤ range.last.toNat := by
  simp only [OctetRange.contains, Bool.and_eq_true, decide_eq_true_eq, UInt8.le_iff_toNat_le,
    UInt8.toNat_ofNat_of_lt' h]

/-- Six bits, as the octet that continues a character with them. -/
def octetOf (six : Nat) : UInt8 := .ofNat (six + 0x80)

/-- Six bits that may stand at a place where an octet of a range is expected. -/
structure Fits (range : OctetRange) (six : Nat) : Prop where
  lt : six < 0x40
  contains : range.contains (octetOf six) = true

theorem fits_iff {range : OctetRange} {six : Nat} :
    Fits range six ↔
      six < 0x40 ∧ range.first.toNat ≤ six + 0x80 ∧ six + 0x80 ≤ range.last.toNat := by
  constructor
  · rintro ⟨hlt, hcontains⟩
    exact ⟨hlt, (contains_ofNat_iff (by omega)).1 hcontains⟩
  · rintro ⟨hlt, hrange⟩
    exact ⟨hlt, (contains_ofNat_iff (by omega)).2 hrange⟩

theorem fits_continuation {six : Nat} (h : six < 0x40) : Fits .continuation six :=
  fits_iff.2 ⟨h, Nat.le_add_left _ _, show six + 0x80 ≤ 0xBF by omega⟩

theorem fits_secondRange {low high : UInt8} {top n six : Nat} (h : six < 0x40)
    (hlow : n = 0 → low.toNat ≤ six + 0x80) (hhigh : n = top → six + 0x80 ≤ high.toNat) :
    Fits (secondRange low top high n) six := by
  rw [secondRange]
  split
  next hleast => exact fits_iff.2 ⟨h, hlow hleast, show six + 0x80 ≤ 0xBF by omega⟩
  next =>
    split
    next htop => exact fits_iff.2 ⟨h, Nat.le_add_left _ _, hhigh htop⟩
    next => exact fits_continuation h

theorem toNat_octetOf {six : Nat} (h : six < 0x40) : (octetOf six).toNat = six + 0x80 :=
  UInt8.toNat_ofNat_of_lt' (show six + 0x80 < 0x100 by omega)

/-- The bits of a character, from those of its first octet on. -/
def joinBits (bits : Nat) (sixes : List Nat) : Nat := sixes.foldl (fun n six ↦ 64 * n + six) bits

@[simp] theorem joinBits_nil (bits : Nat) : joinBits bits [] = bits := rfl

@[simp] theorem joinBits_cons (bits six : Nat) (sixes : List Nat) :
    joinBits bits (six :: sixes) = joinBits (64 * bits + six) sixes := rfl

/-- Inside a character, octets that fit finish it. -/
theorem decodeFrom_inside {next : OctetRange} {later : List OctetRange} {sixes : List Nat}
    (h : List.Forall₂ Fits (next :: later) sixes) (start : Nat) (lead : UInt8) (bits offset : Nat)
    (rest : List UInt8) :
    decodeFrom (.inside start lead bits next later) offset (sixes.map octetOf ++ rest) =
      (decodeFrom .between (offset + sixes.length) rest).map
        (Char.ofNat (joinBits bits sixes) :: ·) := by
  induction later generalizing next bits offset sixes with
  | nil =>
    obtain ⟨six, _, hfits, ⟨⟩, rfl⟩ := List.forall₂_cons_left_iff.1 h
    simp [decodeFrom, hfits.contains, toNat_octetOf hfits.lt]
  | cons second later ih =>
    obtain ⟨six, others, hfits, hothers, rfl⟩ := List.forall₂_cons_left_iff.1 h
    have hnext := ih hothers (64 * bits + six) (offset + 1)
    rw [Nat.add_assoc, Nat.add_comm 1] at hnext
    simpa [decodeFrom, hfits.contains, toNat_octetOf hfits.lt] using hnext

/-- A first octet, and octets that fit after it, are one character. -/
theorem decodeFrom_between {lead : UInt8} {bits : Nat} {ranges : List OctetRange}
    {sixes : List Nat} (hlead : leadOf? lead = some (bits, ranges))
    (h : List.Forall₂ Fits ranges sixes) (offset : Nat) (rest : List UInt8) :
    decodeFrom .between offset (lead :: sixes.map octetOf ++ rest) =
      (decodeFrom .between (offset + 1 + sixes.length) rest).map
        (Char.ofNat (joinBits bits sixes) :: ·) := by
  cases h with
  | nil => simp [decodeFrom, hlead]
  | cons hfits hothers =>
    have hinside := decodeFrom_inside (.cons hfits hothers) offset lead bits (offset + 1) rest
    simpa [decodeFrom, hlead] using hinside

/-! ### Characters -/

/-- **The form in which a character is written**: its first octet is in the table, the others fit
after it, and together they have its code. -/
theorem exists_form (c : Char) :
    ∃ lead bits ranges sixes, String.utf8EncodeChar c = lead :: sixes.map octetOf ∧
      leadOf? lead = some (bits, ranges) ∧ List.Forall₂ Fits ranges sixes ∧
      joinBits bits sixes = c.toNat := by
  have hvalid : c.toNat < 0xD800 ∨ 0xDFFF < c.toNat ∧ c.toNat < 0x110000 := c.valid
  have hcontinuation : ∀ n, Fits .continuation (n % 64) := fun n ↦
    fits_continuation (Nat.mod_lt n (by decide))
  rw [String.utf8EncodeChar, show c.val.toNat = c.toNat from rfl]
  generalize c.toNat = v at hvalid
  split
  next hone => exact ⟨_, v, [], [], rfl, leadOf?_one _ (by omega), .nil, rfl⟩
  next hone =>
    split
    next htwo =>
      refine ⟨_, _, _, [v % 64], rfl, leadOf?_two _ (by omega) (by omega),
        .cons (hcontinuation v) .nil, ?_⟩
      simp only [joinBits_cons, joinBits_nil]
      omega
    next htwo =>
      split
      next hthree =>
        refine ⟨_, _, _, [v / 64 % 64, v % 64], rfl, leadOf?_three _ (by omega),
          .cons (fits_secondRange (by omega) (fun _ ↦ ?_) fun _ ↦ ?_)
            (.cons (hcontinuation v) .nil), ?_⟩
        -- two octets do not suffice, and the code is no surrogate
        · show 0xA0 ≤ v / 64 % 64 + 0x80
          omega
        · show v / 64 % 64 + 0x80 ≤ 0x9F
          omega
        · simp only [joinBits_cons, joinBits_nil]
          omega
      next hthree =>
        refine ⟨_, _, _, [v / 4096 % 64, v / 64 % 64, v % 64], rfl, leadOf?_four _ (by omega),
          .cons (fits_secondRange (by omega) (fun _ ↦ ?_) fun _ ↦ ?_)
            (.cons (hcontinuation (v / 64)) (.cons (hcontinuation v) .nil)), ?_⟩
        -- three octets do not suffice, and there are no codes beyond the last one
        · show 0x90 ≤ v / 4096 % 64 + 0x80
          omega
        · show v / 4096 % 64 + 0x80 ≤ 0x8F
          omega
        · simp only [joinBits_cons, joinBits_nil]
          omega

theorem decodeFrom_encode (offset : Nat) (text : List Char) :
    decodeFrom .between offset (encode text) = .ok text := by
  induction text generalizing offset with
  | nil => rfl
  | cons c text ih =>
    obtain ⟨lead, bits, ranges, sixes, hencode, hlead, hfits, hcode⟩ := exists_form c
    have hcons : encode (c :: text) = String.utf8EncodeChar c ++ encode text := rfl
    rw [hcons, hencode, decodeFrom_between hlead hfits, ih, hcode, Char.ofNat_toNat]
    rfl

/-- **Every text is read back from its octets.** -/
theorem decode_encode (text : List Char) : decode (encode text) = .ok text :=
  decodeFrom_encode 0 text

end RegisterMachine.Text.Utf8
