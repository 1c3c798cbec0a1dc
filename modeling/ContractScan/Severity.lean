/-!
# Severities

How grave a finding is, from critical down to informational.
-/

namespace ContractScan

/-- How grave a finding is, the gravest first. -/
inductive Severity
  | critical
  | high
  | medium
  | low
  | info
deriving DecidableEq, Repr, Inhabited

namespace Severity

/-- All severities, the gravest first. -/
def all : List Severity := [.critical, .high, .medium, .low, .info]

/-- The place in the order of gravity, from 0 for critical to 4 for informational. -/
def rank : Severity → Nat
  | .critical => 0
  | .high => 1
  | .medium => 2
  | .low => 3
  | .info => 4

/-- The name in reports and data. -/
def name : Severity → String
  | .critical => "Critical"
  | .high => "High"
  | .medium => "Medium"
  | .low => "Low"
  | .info => "Info"

/-- The severity of the given name. -/
def ofName? (s : String) : Option Severity :=
  all.find? fun v ↦ v.name == s

/-- At least as grave as the threshold. -/
def meets (s threshold : Severity) : Bool := s.rank ≤ threshold.rank

/-- What one finding of this severity takes off the security score. -/
def penalty : Severity → Nat
  | .critical => 25
  | .high => 15
  | .medium => 8
  | .low => 3
  | .info => 1

/-- The rank tells severities apart. -/
theorem rank_inj {a b : Severity} : a.rank = b.rank ↔ a = b := by
  cases a <;> cases b <;> simp [rank]

/-- Reading a name gives the severity that bears it. -/
theorem ofName?_name (s : Severity) : ofName? s.name = some s := by
  cases s <;> decide

end Severity

end ContractScan
