import RegisterMachine.Toml.Value

/-!
# The order of values

Numbers of all kinds are compared by what they amount to, and a truth value amounts to zero or
one. Texts, dates, times and moments are compared with their like. Nothing else can be compared.

A set of values has no order of its own. It is gone through in one that nothing determines, not even
the set: the next run of the program may find another one.
-/

namespace RegisterMachine.Toml

open Text Calendar

/-- What a number amounts to. -/
inductive Amount where
  | finite (value : Dyadic)
  | infinite (sign : Sign)
  /-- It is no number, and not even the same as itself. -/
  | undefined

namespace Amount

/-- Whether two numbers amount to the same. -/
def same : Amount → Amount → Bool
  | .finite a, .finite b => a == b
  | .infinite a, .infinite b => a == b
  | _, _ => false

/-- Whether a number is less than another. -/
def less : Amount → Amount → Bool
  | .finite a, .finite b => a.blt b
  | .infinite .minus, .finite _ => true
  | .finite _, .infinite .plus => true
  | .infinite .minus, .infinite .plus => true
  | _, _ => false

/-- What a binary number amounts to. -/
def ofBinary : Binary64 → Amount
  | .finite sign mantissa exponent =>
    .finite (Dyadic.ofIntWithPrec (sign.apply mantissa) (-exponent))
  | .infinite sign => .infinite sign
  | .undefined => .undefined

end Amount

/-- What a value amounts to, if it is a number. -/
def Value.amount? : Value → Option Amount
  | boolean b => some (.finite (Dyadic.ofInt (if b then 1 else 0)))
  | integer n => some (.finite (Dyadic.ofInt n))
  | fraction x => some (.ofBinary x)
  | _ => none

/-- Whether two values without parts are the same. -/
def Value.same (a b : Value) : Bool :=
  match a, b with
  | .string s, .string t => s == t
  | .date d, .date e => d == e
  | .time t, .time u => t == u
  | .moment m, .moment n =>
    m.offset?.isSome == n.offset?.isSome && m.microseconds == n.microseconds
  | _, _ =>
    match a.amount?, b.amount? with
    | some x, some y => x.same y
    | _, _ => false

/-- Why two values cannot be compared. -/
inductive OrderError where
  /-- Values of these kinds have no order. -/
  | kinds (first second : String)
  /-- A moment and a date. -/
  | momentAndDate
  /-- The offset of only one of two moments is known. -/
  | offsets
deriving DecidableEq, Repr

/-- The wording of the reason. -/
def OrderError.message : OrderError → String
  | kinds first second =>
    "'<' not supported between instances of '" ++ first ++ "' and '" ++ second ++ "'"
  | momentAndDate => "can't compare datetime.datetime to datetime.date"
  | offsets => "can't compare offset-naive and offset-aware datetimes"

/-- Whether a value is less than another. -/
def Value.less (a b : Value) : Except OrderError Bool :=
  match a, b with
  | .string s, .string t => .ok (decide (s < t))
  | .date d, .date e => .ok (decide (d.number < e.number))
  | .time t, .time u => .ok (decide (t.microseconds < u.microseconds))
  | .moment m, .moment n =>
    if m.offset?.isSome = n.offset?.isSome then .ok (decide (m.microseconds < n.microseconds))
    else .error .offsets
  | .moment _, .date _ => .error .momentAndDate
  | .date _, .moment _ => .error .momentAndDate
  | _, _ =>
    match a.amount?, b.amount? with
    | some x, some y => .ok (x.less y)
    | _, _ => .error (.kinds a.kind b.kind)

/-- Whether a value is a text. -/
def Value.isText : Value → Bool
  | string _ => true
  | _ => false

/-- The order in which the members of a set are gone through: some rearrangement of them. -/
structure SetOrder where
  arrange : List Value → List Value
  perm : ∀ values, (arrange values).Perm values

/-- Texts come after everything else. -/
def SetOrder.textsLast : SetOrder where
  arrange values := values.filter (!·.isText) ++ values.filter (·.isText)
  perm values := by simpa using List.filter_append_perm (!Value.isText ·) values

/-- Puts a value among values in descending order, behind all that are greater. -/
def insertDescending (value : Value) : List Value → Except OrderError (List Value)
  | [] => .ok [value]
  | other :: rest => do
    if ← value.less other then return other :: (← insertDescending value rest)
    else return value :: other :: rest

/-- Values in ascending order. Each is compared with the greatest of those before it first. Another
way to sort may fail at another comparison, but at none that no order of the values leads to here:
it is enough that the two values come first. -/
def inOrder (values : List Value) : Except OrderError (List Value) :=
  (values.foldlM (fun sorted value ↦ insertDescending value sorted) []).map List.reverse

end RegisterMachine.Toml
