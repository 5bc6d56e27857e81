/-!
# UTF-8

Reading octets as text, one octet at a time. The reader is either between characters or inside
one, and inside one it knows which octets may come next. It refuses at the first octet that no
text has at this place, and at the end when a character is unfinished; the refusal tells which
octets it covers.
-/

namespace RegisterMachine.Text.Utf8

/-- Why octets are not a text. -/
inductive Cause where
  | invalidStart
  | invalidContinuation
  | unexpectedEnd
deriving DecidableEq, Repr

/-- The octets that cannot be read: `length` of them from `start`, the first one `lead`. -/
structure DecodeError where
  cause : Cause
  start : Nat
  length : Nat
  lead : UInt8
deriving DecidableEq, Repr

/-- The wording of a cause. -/
def Cause.message : Cause → String
  | .invalidStart => "invalid start byte"
  | .invalidContinuation => "invalid continuation byte"
  | .unexpectedEnd => "unexpected end of data"

/-- The wording of a refusal: a single octet is shown, of several only the positions. -/
def DecodeError.message (e : DecodeError) : String :=
  let place :=
    if e.length = 1 then
      let digits := String.ofList (Nat.toDigits 16 e.lead.toNat)
      "byte 0x" ++ digits ++ " in position " ++ e.start.repr
    else "bytes in position " ++ e.start.repr ++ "-" ++ (e.start + e.length - 1).repr
  "'utf-8' codec can't decode " ++ place ++ ": " ++ e.cause.message

/-- An inclusive range of octets. -/
structure OctetRange where
  first : UInt8
  last : UInt8
deriving DecidableEq, Repr

/-- Whether an octet lies in a range. -/
def OctetRange.contains (r : OctetRange) (b : UInt8) : Bool := r.first ≤ b && b ≤ r.last

/-- Any octet that continues a character. -/
def OctetRange.continuation : OctetRange := ⟨0x80, 0xBF⟩

/-- The bits that a first octet contributes, and the octets that must follow it. The narrower
ranges after some first octets keep out code points that have a shorter form, surrogates, and
what lies beyond the last code point. -/
def leadOf? (b : UInt8) : Option (Nat × List OctetRange) :=
  let next := OctetRange.continuation
  if b < 0x80 then some (b.toNat, [])
  else if b < 0xC2 then none
  else if b < 0xE0 then some (b.toNat - 0xC0, [next])
  else if b = 0xE0 then some (0, [⟨0xA0, 0xBF⟩, next])
  else if b = 0xED then some (0xD, [⟨0x80, 0x9F⟩, next])
  else if b < 0xF0 then some (b.toNat - 0xE0, [next, next])
  else if b = 0xF0 then some (0, [⟨0x90, 0xBF⟩, next, next])
  else if b < 0xF4 then some (b.toNat - 0xF0, [next, next, next])
  else if b = 0xF4 then some (4, [⟨0x80, 0x8F⟩, next, next])
  else none

/-- Where the reader stands. -/
inductive State where
  /-- Between characters. -/
  | between
  /-- Inside the character that starts with octet `lead` at `start`: `bits` are known, `next` is
  what may follow, then `later`. -/
  | inside (start : Nat) (lead : UInt8) (bits : Nat) (next : OctetRange) (later : List OctetRange)

/-- Reads the octets from position `offset` on. -/
def decodeFrom (state : State) (offset : Nat) : List UInt8 → Except DecodeError (List Char)
  | [] =>
    match state with
    | .between => .ok []
    | .inside start lead _ _ _ => .error ⟨.unexpectedEnd, start, offset - start, lead⟩
  | b :: rest =>
    match state with
    | .between =>
      match leadOf? b with
      | none => .error ⟨.invalidStart, offset, 1, b⟩
      | some (bits, []) => (decodeFrom .between (offset + 1) rest).map (Char.ofNat bits :: ·)
      | some (bits, next :: later) =>
        decodeFrom (.inside offset b bits next later) (offset + 1) rest
    | .inside start lead bits next later =>
      if next.contains b then
        let bits := 64 * bits + (b.toNat - 0x80)
        match later with
        | [] => (decodeFrom .between (offset + 1) rest).map (Char.ofNat bits :: ·)
        | next :: later => decodeFrom (.inside start lead bits next later) (offset + 1) rest
      else .error ⟨.invalidContinuation, start, offset - start, lead⟩

/-- Reads octets as text. -/
def decode (octets : List UInt8) : Except DecodeError (List Char) := decodeFrom .between 0 octets

/-- The octets of a text. -/
def encode (text : List Char) : List UInt8 := text.flatMap String.utf8EncodeChar

end RegisterMachine.Text.Utf8
