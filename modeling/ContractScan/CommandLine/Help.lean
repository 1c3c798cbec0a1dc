import ContractScan.CommandLine.Invocation

/-!
# Help and refusals

What is said about the use of the program, and how a run ends whose arguments are refused.
-/

namespace ContractScan.CommandLine

/-- How a run ends. -/
structure Outcome where
  /-- The exit status. -/
  status : Nat
  output : String := ""
  /-- The lines for the user about what went wrong. -/
  errors : List String := []
deriving DecidableEq, Repr

/-- The name and version of the program. -/
def versionText : String := "contract-auditor 0.1.0"

/-- What a command does. -/
def Verb.about : Verb → String
  | .analyze => "Analyze a contract source file"
  | .fetch => "Fetch verified source by address (or explorer URL) and optionally analyze it"
  | .rules => "List the built-in detection rules"
  | .networks => "Show supported networks and their explorers"
  | .examples => "Show well-known verified contracts to try"

/-- The lines about the use of the program. -/
def usage : List String :=
  ["Scan smart contracts for known vulnerability patterns", "",
    "Usage: contract-auditor [OPTIONS] <COMMAND>", "", "Commands:"] ++
  (Verb.all.map fun v ↦
    "  " ++ v.word ++ String.ofList (List.replicate (10 - v.word.length) ' ') ++ v.about) ++
  ["", "Options:",
    "  -c, --config <FILE>  Path to configuration file",
    "  -v, --verbose...     Enable verbose logging",
    "  -q, --quiet          Suppress logging and the analyze/fetch report",
    "      --json           Output in JSON format where applicable",
    "  -h, --help           Print help",
    "  -V, --version        Print version"]

namespace Refusal

/-- Help and version were asked for; anything else is an error. -/
def asked : Refusal → Bool
  | .helpAsked | .versionAsked => true
  | _ => false

/-- The exit status of a run that is refused. -/
def status (r : Refusal) : Nat := if r.asked then 0 else 2

/-- What is wrong with the arguments. -/
def message : Refusal → String
  | .helpAsked | .versionAsked => ""
  | .nothingGiven | .commandMissing => "a command is required"
  | .commandUnknown => "there is no such command"
  | .argumentUnknown => "there is an unexpected argument"
  | .argumentMissing => "a required argument is missing"
  | .valueIllegal => "a value is missing or not allowed"
  | .valueUnwanted => "a value was given where none is taken"
  | .repeated => "an option was given more than once"

/-- How a run ends that is refused. -/
def outcome (r : Refusal) : Outcome where
  status := r.status
  output :=
    match r with
    | .helpAsked => "\n".intercalate usage ++ "\n"
    | .versionAsked => versionText ++ "\n"
    | _ => ""
  errors := if r.asked then [] else ("error: " ++ r.message) :: usage

end Refusal

end ContractScan.CommandLine
