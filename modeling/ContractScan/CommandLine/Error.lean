import ContractScan.CommandLine.Program
import ContractScan.Rule.Catalog

/-!
# Failures of runs

Whatever can stop a run, with the text for the user.
-/

namespace ContractScan

/-- Why a run failed. -/
inductive RunError
  | settings (e : SettingsError)
  | rules (e : RuleError)
  | fetch (e : FetchError)
  | file (e : FileError)
  /-- A request would have to be given up at a time that no clock can show. -/
  | deadline
deriving DecidableEq, Repr

namespace RunError

/-- The text for the user. -/
def message : RunError → String
  | .settings e => "Configuration error: " ++ e.message
  | .rules e => "Security pattern error: " ++ e.message
  | .fetch e => "Contract fetch failed: " ++ e.message
  | .file e => "IO error: " ++ e.message
  | .deadline => "overflow when adding duration to instant"

/-- What the user can do about it. -/
def hint? : RunError → Option String
  | .fetch e => e.hint?
  | _ => none

/-- The exit status. -/
def status : RunError → Nat
  | .deadline => 101
  | _ => 1

/-- The lines that tell the user: the failure, if it is one that was reckoned with, and the hint. -/
def lines (e : RunError) : List String :=
  match e with
  | .deadline => [e.message]
  | _ => ("Error: " ++ e.message) :: (e.hint?.map ("Hint: " ++ ·)).toList

end RunError

end ContractScan
