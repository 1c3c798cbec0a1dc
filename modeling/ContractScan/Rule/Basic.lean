import ContractScan.Pattern.Basic
import ContractScan.Pattern.Budget
import ContractScan.Severity

/-!
# Rules

A rule is a pattern together with what is reported about its matches. Rules are grouped into
sets: one base set for each kind of chain, and overlays for single chains.
-/

namespace ContractScan

/-- The group a rule belongs to. -/
inductive RuleSet
  | evm
  | solana
  | bscOverlay
  | polygonOverlay
  | avalancheOverlay
deriving DecidableEq, Repr, Inhabited

namespace RuleSet

/-- All rule sets, in the order of the catalog. -/
def all : List RuleSet := [.evm, .solana, .bscOverlay, .polygonOverlay, .avalancheOverlay]

/-- The name in data. -/
def name : RuleSet → String
  | .evm => "evm"
  | .solana => "solana"
  | .bscOverlay => "bsc-overlay"
  | .polygonOverlay => "polygon-overlay"
  | .avalancheOverlay => "avalanche-overlay"

/-- The set of the given name. -/
def ofName? (s : String) : Option RuleSet :=
  all.find? fun v ↦ v.name == s

/-- The heading over the set's rules. -/
def label : RuleSet → String
  | .evm => "EVM / Solidity"
  | .solana => "Solana / Rust"
  | .bscOverlay => "BSC overlay"
  | .polygonOverlay => "Polygon overlay"
  | .avalancheOverlay => "Avalanche overlay"

/-- Reading a name gives the set that bears it. -/
theorem ofName?_name (s : RuleSet) : ofName? s.name = some s := by
  cases s <;> decide

end RuleSet

/-- What to look for and what to say about it. -/
structure Rule where
  id : String
  set : RuleSet
  /-- The kind of weakness, as a title. -/
  weakness : String
  severity : Severity
  pattern : Pattern Plain
  description : String
  explanation : String
  recommendation : String
  /-- The entry in the Common Weakness Enumeration. -/
  cwe : Option String := none
  /-- The entry in the Smart Contract Weakness Classification. -/
  swc : Option String := none
deriving DecidableEq, Repr

namespace Rule

/-- The budget of one search: only patterns that look ahead have a limit. -/
def budget (r : Rule) : Option Budget :=
  if r.pattern.looksAhead then some { returns := 1000000, room := 1000000 } else none

end Rule

end ContractScan
