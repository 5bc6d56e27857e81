import RegisterMachine.Register
import RegisterMachine.Text.Decimal

/-!
# The register file

A register file holds one integer, of any size, for each register. It is determined by what
`get` answers (`RegisterFile.ext_get`), and `set` changes the answer for one register
(`RegisterFile.get_set`).
-/

namespace RegisterMachine

open Text

/-- The contents of the registers. -/
structure RegisterFile where
  /-- The value of the register at each place of the order. -/
  values : Vector Int Register.count
deriving DecidableEq

namespace RegisterFile

/-- All registers hold zero. -/
def zero : RegisterFile := ⟨Vector.replicate Register.count 0⟩

/-- What a register holds. -/
def get (file : RegisterFile) (r : Register) : Int := file.values[r.index]

/-- Puts a value into a register. -/
def set (file : RegisterFile) (r : Register) (value : Int) : RegisterFile :=
  ⟨file.values.set r.index value⟩

/-- The registers with their values, in order. -/
def entries (file : RegisterFile) : List (Register × Int) :=
  Register.all.map fun r ↦ (r, file.get r)

/-- Writes every register as name, mark and value. -/
def writeEntries (file : RegisterFile) (mark : String) : Except DigitError (List String) :=
  file.entries.mapM fun (r, value) ↦ (writeDecimal value).map (r.name ++ mark ++ ·)

/-- The register file as a list of equations. -/
def write (file : RegisterFile) : Except DigitError String :=
  (file.writeEntries " = ").map fun texts ↦ "[" ++ ", ".intercalate texts ++ "]"

/-- The register file with the word for what it is. -/
def describe (file : RegisterFile) : Except DigitError String :=
  file.write.map fun text ↦ "Registers(" ++ text ++ ")"

/-! ### What `get` answers -/

@[simp] theorem get_zero (r : Register) : zero.get r = 0 := by
  simp [zero, get]

theorem get_set (file : RegisterFile) (r s : Register) (value : Int) :
    (file.set r value).get s = if r = s then value else file.get s := by
  simp only [get, set, Fin.getElem_fin, Vector.getElem_set, Fin.val_inj, Register.index_inj]

@[simp] theorem get_set_self (file : RegisterFile) (r : Register) (value : Int) :
    (file.set r value).get r = value := by
  simp [get_set]

theorem get_set_of_ne (file : RegisterFile) {r s : Register} (h : r ≠ s) (value : Int) :
    (file.set r value).get s = file.get s := by
  simp [get_set, h]

/-- Two register files that answer alike are equal. -/
theorem ext_get {f g : RegisterFile} (h : ∀ r, f.get r = g.get r) : f = g := by
  obtain ⟨a⟩ := f
  obtain ⟨b⟩ := g
  refine congrArg _ (Vector.ext fun i hi ↦ ?_)
  match i, hi with
  | 0, _ => exact h .eax
  | 1, _ => exact h .ebx
  | 2, _ => exact h .ecx
  | 3, _ => exact h .edx
  | 4, _ => exact h .esp
  | 5, _ => exact h .ebp
  | 6, _ => exact h .esi
  | 7, _ => exact h .edi

end RegisterFile

end RegisterMachine
