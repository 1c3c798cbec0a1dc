import ContractScan.Rule.Basic

/-!
# Findings

A finding is one place of a source that a rule has flagged, with all that is said about it.
-/

namespace ContractScan

/-- A weakness reported for a source. -/
structure Finding where
  weakness : String
  severity : Severity
  /-- The line, counted from one. -/
  line : Option Nat
  /-- The lines around it, with a mark at the line itself. -/
  snippet : String
  description : String
  explanation : String
  recommendation : String
  cwe : Option String
  swc : Option String
deriving DecidableEq, Repr

/-- What the rule reports about a match on the given line. -/
def Rule.finding (r : Rule) (line : Nat) (snippet : String) : Finding where
  weakness := r.weakness
  severity := r.severity
  line := some line
  snippet := snippet
  description := r.description
  explanation := r.explanation
  recommendation := r.recommendation
  cwe := r.cwe
  swc := r.swc

end ContractScan
