import ContractScan.Fetch.Contract
import ContractScan.Fetch.Error
import ContractScan.Fetch.SourceBundle
import ContractScan.Text.LetterCase

/-!
# Explorers of EVM chains

What is asked of an explorer about a contract, and what its answer means.
-/

namespace ContractScan.Explorer

/-- The query for the source of a contract. A chain is named where one endpoint serves several. -/
def sourceQuery (address key : String) (chainId : Option Nat) : List (String × String) :=
  (chainId.map fun c ↦ ("chainid", toString c)).toList ++
    [("module", "contract"), ("action", "getsourcecode"), ("address", address), ("apikey", key)]

/-- The answer of an explorer. -/
structure Answer where
  status : String
  message : Option String
  result : Json
deriving Repr

/-- The answer that the text holds. -/
def Answer.parse? (body : String) : Option Answer := do
  let r ← (← Json.scan? body.toList).record? false ["status", "message", "result"]
  return {
    status := ← r.required "status" Json.text?
    message := ← r.defaulted "message" none (Json.Record.nullable Json.text?)
    result := ← r.defaulted "result" .null (Json.settle? (Json.maxDepth - 1)) }

/-- What an explorer tells about a contract; what it does not tell is empty. -/
structure Entry where
  source : String
  abi : String
  name : String
  compiler : String
  constructorArguments : String
deriving DecidableEq, Repr

/-- The entry that the value stands for. -/
def Entry.ofJson? (j : Json) : Option Entry := do
  let r ← j.record? false
    ["SourceCode", "ABI", "ContractName", "CompilerVersion", "ConstructorArguments"]
  return {
    source := ← r.defaulted "SourceCode" "" Json.text?
    abi := ← r.defaulted "ABI" "" Json.text?
    name := ← r.defaulted "ContractName" "" Json.text?
    compiler := ← r.defaulted "CompilerVersion" "" Json.text?
    constructorArguments := ← r.defaulted "ConstructorArguments" "" Json.text? }

/-- What explorers give as the interface of a contract that is not verified. -/
def unverifiedAbi : String := "Contract source code not verified"

/-- The contract that an entry describes. -/
def Entry.contract (e : Entry) (network : Network) (address : String) : Contract where
  address := address
  source := SourceBundle.unpack e.source
  name := (Text.nonBlank? e.name).getD "Unknown"
  compiler := (Text.nonBlank? e.compiler).getD "Unknown"
  network := network
  verified := true
  page := network.explorerPage ++ address
  abi := (Text.nonBlank? e.abi).filter (· != unverifiedAbi)
  constructorArguments := Text.nonBlank? e.constructorArguments

/-- What a failure of the explorer means: a matter of the key first, then of verification, then of
the rate; the words decide, in any ASCII letter case. -/
def failure (network : Network) (address message result : String) : FetchError :=
  let mentioned := fun word ↦ Text.mentions message word || Text.mentions result word
  if mentioned "invalid api key" then .invalidKey network
  else if mentioned "not verified" then .notVerified network address
  else if mentioned "rate limit" then .rateLimited network
  else .serviceFailure network (if result.isEmpty then message else message ++ ": " ++ result)

/-- The contract that a successful answer describes in its first entry. -/
def Answer.contract (a : Answer) (network : Network) (address : String) :
    Except FetchError Contract :=
  match a.result with
  | .array (first :: _) =>
    match Entry.ofJson? first with
    | none =>
      .error (.serviceFailure network
        "unexpected result layout: the first entry is no record of texts")
    | some e =>
      if Text.allBlank e.source then .error (.notVerified network address)
      else .ok (e.contract network address)
  | _ => .error (.notVerified network address)

/-- What the answer of an explorer means. -/
def interpret (network : Network) (address body : String) : Except FetchError Contract :=
  match Answer.parse? body with
  | none =>
    .error (.serviceFailure network "malformed explorer response: not a record with a status")
  | some a =>
    if a.status = "1" then a.contract network address
    else .error (failure network address (a.message.getD "Unknown error") (a.result.text?.getD ""))

end ContractScan.Explorer
