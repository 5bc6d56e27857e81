/-!
# Registers

The machine has eight registers with fixed names. Their order is the order in which they are
shown.
-/

namespace RegisterMachine

/-- A register of the machine. -/
inductive Register where
  | eax
  | ebx
  | ecx
  | edx
  | esp
  | ebp
  | esi
  | edi
deriving DecidableEq, Repr

namespace Register

/-- The number of registers. -/
abbrev count : Nat := 8

/-- The registers in their order. -/
def all : List Register := [eax, ebx, ecx, edx, esp, ebp, esi, edi]

/-- The place of a register in the order. -/
def index : Register → Fin count
  | eax => 0
  | ebx => 1
  | ecx => 2
  | edx => 3
  | esp => 4
  | ebp => 5
  | esi => 6
  | edi => 7

/-- The name of a register in source lines and in output. -/
def name : Register → String
  | eax => "EAX"
  | ebx => "EBX"
  | ecx => "ECX"
  | edx => "EDX"
  | esp => "ESP"
  | ebp => "EBP"
  | esi => "ESI"
  | edi => "EDI"

/-- The register with a given name. -/
def ofName? (name : String) : Option Register := all.find? (·.name == name)

/-! ### Small facts -/

theorem mem_all (r : Register) : r ∈ all := by
  cases r <;> decide

@[simp] theorem length_all : all.length = count := rfl

theorem index_injective {r s : Register} (h : r.index = s.index) : r = s := by
  revert h; cases r <;> cases s <;> decide

@[simp] theorem index_inj {r s : Register} : r.index = s.index ↔ r = s :=
  ⟨index_injective, congrArg index⟩

@[simp] theorem ofName?_name (r : Register) : ofName? r.name = some r := by
  cases r <;> decide

/-- A name leads to a register only if it is that register's name. -/
theorem ofName?_eq_some_iff {text : String} {r : Register} :
    ofName? text = some r ↔ text = r.name := by
  refine ⟨fun h ↦ ?_, fun h ↦ h ▸ ofName?_name r⟩
  have := List.find?_some h
  exact (eq_of_beq this).symm

end Register

end RegisterMachine
