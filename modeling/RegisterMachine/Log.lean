/-!
# Log records

What the library reports about its work: a message with a level. Nothing is filtered here; a
reader of the records chooses a threshold.
-/

namespace RegisterMachine

/-- How important a record is. -/
inductive Level where
  | debug
  | info
  | warning
  | error
deriving DecidableEq, Repr

namespace Level

/-- The name under which a level is shown. -/
def name : Level → String
  | debug => "DEBUG"
  | info => "INFO"
  | warning => "WARNING"
  | error => "ERROR"

/-- The place of a level in the order of importance. -/
def rank : Level → Nat
  | debug => 0
  | info => 1
  | warning => 2
  | error => 3

instance : LE Level := ⟨fun a b ↦ a.rank ≤ b.rank⟩

instance (a b : Level) : Decidable (a ≤ b) := inferInstanceAs (Decidable (a.rank ≤ b.rank))

end Level

/-- A message with its level. -/
structure Record where
  level : Level
  message : String
deriving DecidableEq, Repr

namespace Record

/-- A record for whoever looks for a mistake. -/
def debug (message : String) : Record := ⟨.debug, message⟩

/-- A record for everyone. -/
def info (message : String) : Record := ⟨.info, message⟩

/-- A record of a defect that was passed over. -/
def warning (message : String) : Record := ⟨.warning, message⟩

/-- A record of a defect that ended the work. -/
def error (message : String) : Record := ⟨.error, message⟩

@[simp] theorem level_debug (message : String) : (debug message).level = .debug := rfl

@[simp] theorem level_info (message : String) : (info message).level = .info := rfl

@[simp] theorem level_warning (message : String) : (warning message).level = .warning := rfl

@[simp] theorem level_error (message : String) : (error message).level = .error := rfl

end Record

/-- The records in the order in which they were made. -/
abbrev Log := Array Record

/-- The records at the threshold or above it. -/
def Log.atLeast (log : Log) (threshold : Level) : Log := log.filter fun r ↦ threshold ≤ r.level

end RegisterMachine
