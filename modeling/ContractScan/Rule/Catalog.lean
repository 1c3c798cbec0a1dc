import ContractScan.Rule.Evm
import ContractScan.Rule.Overlay
import ContractScan.Rule.Solana

/-!
# The catalog of rules

All rules in one list, looked up by their identifiers and by their sets. No two rules may have one
identifier.
-/

namespace ContractScan

/-- Why a list of rules is no catalog. -/
inductive RuleError
  | duplicateId (id : String)
deriving DecidableEq, Repr

/-- The text for the user. -/
def RuleError.message : RuleError → String
  | .duplicateId id => "Duplicate rule id '" ++ id ++ "'"

namespace Rule

/-- All rules: the base sets and then the overlays. -/
def catalog : List Rule := Evm.rules ++ Solana.rules ++ Overlay.rules

/-- The rule with the given identifier. -/
def find? (id : String) : Option Rule := catalog.find? fun r ↦ r.id == id

/-- The rules of one set, in the order of the catalog. -/
def inSet (s : RuleSet) : List Rule := catalog.filter fun r ↦ r.set == s

/-- The rules of several sets, one set after the other. -/
def inSets (sets : List RuleSet) : List Rule := sets.flatMap inSet

/-- The first identifier of the rules that is among `seen` or borne by an earlier rule. -/
def duplicateId? (seen : List String) : List Rule → Option String
  | [] => none
  | r :: rs => if seen.contains r.id then some r.id else duplicateId? (r.id :: seen) rs

/-- The rules, if they may stand together in a catalog. -/
def checked (rules : List Rule) : Except RuleError (List Rule) :=
  match duplicateId? [] rules with
  | some id => .error (.duplicateId id)
  | none => .ok rules

end Rule

end ContractScan
