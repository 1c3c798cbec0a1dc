import ContractScan.Fetch.Contract
import ContractScan.Fetch.Error
import ContractScan.Json.Parser

/-!
# Accounts on Solana

Programs on Solana are published without source. What a node tells about an account is put into
a note that takes the place of the source.
-/

namespace ContractScan.Account

/-- The request for the account at an address. -/
def request (address : String) : Json := .object [
  ("jsonrpc", .text "2.0"),
  ("id", .nat 1),
  ("method", .text "getAccountInfo"),
  ("params", .array [.text address, .object [("encoding", .text "base64")]])]

/-- The owner of programs that can be upgraded. -/
def upgradeableLoader : String := "BPFLoaderUpgradeab1e11111111111111111111111"

/-- A failure that the node reports. -/
structure Failure where
  code : Int
  message : String
deriving DecidableEq, Repr

/-- The answer of a node: the owner of the account, if there is one, and a failure, if any. -/
structure Answer where
  owner : Option String
  failure : Option Failure
deriving DecidableEq, Repr

/-- The failure that the value stands for. -/
def Failure.ofJson? (j : Json) : Option Failure := do
  let r ← j.record? false ["code", "message"]
  return {
    code := ← r.required "code" Json.signedWord?
    message := ← r.required "message" Json.text? }

/-- The owner in the description of an account. -/
def owner? (j : Json) : Option String := do
  (← j.record? false ["owner"]).required "owner" Json.text?

/-- The owner in a result, which may have no account. -/
def resultOwner? (j : Json) : Option (Option String) := do
  (← j.record? false ["value"]).optional "value" owner?

/-- The answer that the text holds. -/
def Answer.parse? (body : String) : Option Answer := do
  let r ← (← Json.scan? body.toList).record? false ["result", "error"]
  let result ← r.optional "result" resultOwner?
  let failure ← r.optional "error" Failure.ofJson?
  return { owner := result.join, failure }

/-- The note about an account. -/
def note (address owner : String) : String :=
  if owner = upgradeableLoader then
    "// Solana BPF Program\n// Binary analysis not available - source code verification needed\n" ++
      "// Address: " ++ address
  else "// Solana Account\n// Address: " ++ address ++ "\n// Owner: " ++ owner

/-- The account as a contract without verified source. -/
def contract (address owner : String) : Contract where
  address := address
  source := note address owner
  name := "Solana Program"
  compiler := "Unknown"
  network := .solana
  verified := false
  page := Network.solana.explorerPage ++ address
  abi := none
  constructorArguments := none

/-- What the answer of a node means. -/
def interpret (address body : String) : Except FetchError Contract :=
  let fail := fun m ↦ (.error (.serviceFailure .solana m) : Except FetchError Contract)
  match Answer.parse? body with
  | none => fail "malformed RPC response: not a record with a result or an error"
  | some { failure := some f, .. } => fail ("RPC error " ++ toString f.code ++ ": " ++ f.message)
  | some { owner := none, .. } => fail ("account " ++ address ++ " not found")
  | some { owner := some o, .. } => .ok (contract address o)

end ContractScan.Account
