namespace PollAudit

/-- The priority classes of the polling queue, highest first. -/
inductive Priority
  | asap
  | high
  | normal
  | low
deriving DecidableEq, Repr

namespace Priority

def name : Priority → String
  | asap => "asap"
  | high => "high"
  | normal => "normal"
  | low => "low"

/-- Every class, highest first. -/
def all : List Priority := [asap, high, normal, low]

/-- The position of a class in `all`. -/
def rank : Priority → Nat
  | asap => 0
  | high => 1
  | normal => 2
  | low => 3

/-- The class is served ahead of the other one. -/
def before (a b : Priority) : Bool := a.rank < b.rank

def ofName? (name : String) : Option Priority :=
  all.find? (·.name == name)

/-- Every priority is read back from its name. -/
theorem ofName?_name (p : Priority) : ofName? p.name = some p := by
  cases p <;> rfl

end Priority

/-- The classes whose polls take longer than their cycle allows. -/
structure Lockups where
  asap : Bool := false
  high : Bool := false
  normal : Bool := false
  low : Bool := false
deriving DecidableEq, Repr

namespace Lockups

def contains (lockups : Lockups) : Priority → Bool
  | .asap => lockups.asap
  | .high => lockups.high
  | .normal => lockups.normal
  | .low => lockups.low

def any (lockups : Lockups) : Bool :=
  lockups.asap || lockups.high || lockups.normal || lockups.low

/-- The stalled classes, highest first. -/
def active (lockups : Lockups) : List Priority :=
  Priority.all.filter lockups.contains

/-- The stalled classes by name, separated by commas. -/
def text (lockups : Lockups) : String :=
  ", ".intercalate (lockups.active.map Priority.name)

/-- A lockup is reported exactly if some priority is locked up. -/
theorem any_iff {lockups : Lockups} :
    lockups.any = true ↔ ∃ priority, lockups.contains priority = true := by
  constructor
  · intro h
    simp only [any, Bool.or_eq_true] at h
    rcases h with ((h | h) | h) | h
    · exact ⟨.asap, h⟩
    · exact ⟨.high, h⟩
    · exact ⟨.normal, h⟩
    · exact ⟨.low, h⟩
  · rintro ⟨priority, h⟩
    cases priority <;> simp_all [any, contains]

end Lockups

end PollAudit
