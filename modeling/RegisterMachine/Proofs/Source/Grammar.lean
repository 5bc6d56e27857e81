import Mathlib.Data.List.Basic
import RegisterMachine.Source.Scan

/-!
# The language of source lines

What a line may look like, said without scanning it. `Spells i text` says that the characters
`text` are one of the ways to write the instruction `i`:

```
line    = [ identifier ":" spacing ] body
body    = arithmetic spacing register spacing register
        | "mov" spacing register gap literal
        | "out" spacing register
        | "jnz" spacing register spacing identifier
```

A gap is any run of spaces, tabs, line feeds and carriage returns; spacing is a gap that is not
empty. The gap before a literal may be empty, but only where the literal has a sign: this is the
one place where two tokens may touch.

**Nothing here refers to the scanners.** A text is taken apart by stating it as a concatenation,
and the value of a literal is the number that its digits denote. That reading a line agrees with
this description, in both directions, is proved elsewhere; here stand only the description and
what follows from it about single characters.
-/

namespace RegisterMachine.Source

open Text

/-! ### Between the tokens -/

/-- Nothing but characters that may stand between two tokens. -/
def IsGap (text : List Char) : Prop := ∀ c ∈ text, isSkipped c = true

/-- A gap that keeps two tokens apart. -/
structure IsSpacing (text : List Char) : Prop where
  isGap : IsGap text
  nonempty : text ≠ []

/-! ### Tokens -/

/-- A letter or an underscore, and after it letters, digits and underscores. -/
def IsIdentifier : List Char → Prop
  | [] => False
  | c :: rest => isIdentStart c = true ∧ ∀ d ∈ rest, isIdentChar d = true

/-- How a sign is written. Plus is also meant where nothing is written. -/
inductive IsSign : List Char → Sign → Prop
  | absent : IsSign [] .plus
  | plus : IsSign ['+'] .plus
  | minus : IsSign ['-'] .minus

/-- A decimal literal: a sign and digits, of which there are not too many, for a value of 32
bits. -/
structure IsLiteral (mark digits : List Char) (value : Int) : Prop where
  isDigit : ∀ c ∈ digits, c.isDigit = true
  nonempty : digits ≠ []
  length_le : digits.length ≤ digitLimit
  value_eq : ∃ sign, IsSign mark sign ∧ value = sign.apply (Nat.ofDigitChars 10 digits 0)
  min_le : literalMin ≤ value
  le_max : value ≤ literalMax

/-! ### Lines -/

/-- The ways to write an operation. -/
inductive SpellsOperation : Operation → List Char → Prop
  | arithmetic {op : Arithmetic} {result source : Register} {before between : List Char}
      (hbefore : IsSpacing before) (hbetween : IsSpacing between) :
      SpellsOperation (.arithmetic op result source)
        (op.mnemonic.toList ++ (before ++ (result.name.toList ++ (between ++ source.name.toList))))
  | mov {result : Register} {value : Int} {before between mark digits : List Char}
      (hbefore : IsSpacing before) (hbetween : IsGap between)
      (hliteral : IsLiteral mark digits value) (htouch : between = [] → mark ≠ []) :
      SpellsOperation (.mov result value)
        ("mov".toList ++ (before ++ (result.name.toList ++ (between ++ (mark ++ digits)))))
  | out {source : Register} {before : List Char} (hbefore : IsSpacing before) :
      SpellsOperation (.out source) ("out".toList ++ (before ++ source.name.toList))
  | jnz {source : Register} {target : String} {before between : List Char}
      (hbefore : IsSpacing before) (hbetween : IsSpacing between)
      (htarget : IsIdentifier target.toList) :
      SpellsOperation (.jnz source target)
        ("jnz".toList ++ (before ++ (source.name.toList ++ (between ++ target.toList))))

/-- The ways to write an instruction. -/
inductive Spells : Instruction → List Char → Prop
  | unlabelled {operation : Operation} {text : List Char} (h : SpellsOperation operation text) :
      Spells ⟨none, operation⟩ text
  | labelled {label : String} {operation : Operation} {gap text : List Char}
      (hlabel : IsIdentifier label.toList) (hgap : IsSpacing gap)
      (h : SpellsOperation operation text) :
      Spells ⟨some label, operation⟩ (label.toList ++ ':' :: (gap ++ text))

end RegisterMachine.Source
