import ContractScan.Network.Basic
import ContractScan.Text.Utf8

/-!
# Failures of fetching

Why a contract could not be fetched, with the text for the user and, where there is one, a hint
at what can be done.
-/

namespace ContractScan

/-- Why a contract could not be fetched. -/
inductive FetchError
  | invalidKey (network : Network)
  | notVerified (network : Network) (address : String)
  | rateLimited (network : Network)
  /-- The service answered with a failure of its own, or with what cannot be understood. -/
  | serviceFailure (network : Network) (message : String)
  /-- There was no answer. -/
  | unreachable (message : String)
  /-- No endpoint is configured. -/
  | unsupported (network : Network)
  | invalidAddress (address : String) (network : Network)
deriving DecidableEq, Repr

namespace FetchError

/-- The text for the user. -/
def message : FetchError → String
  | .invalidKey n => n.title ++ " rejected the API key"
  | .notVerified n a => "Contract " ++ a ++ " is not verified on " ++ n.title
  | .rateLimited n => n.title ++ " API rate limit exceeded"
  | .serviceFailure n m => n.title ++ " API error: " ++ m
  | .unreachable m => "Network error: " ++ m
  | .unsupported n => "No endpoint configured for " ++ n.title
  | .invalidAddress a n => "'" ++ a ++ "' is not a valid " ++ n.title ++ " address"

/-- Where to get a key and how to hand it over. -/
def keyHint? (n : Network) : Option String := do
  let name ← n.keyVariable?
  let page ← n.keyPage?
  return "Get a free API key at " ++ page ++ " and export it as " ++ name

/-- What the user can do about it. -/
def hint? : FetchError → Option String
  | .invalidKey n | .rateLimited n => keyHint? n
  | .notVerified n a =>
    some ("Only verified contracts can be analysed; check " ++ n.explorerPage ++ a)
  | .invalidAddress _ n =>
    some (if n.isEvm then "EVM addresses are 0x followed by 40 hex characters"
      else "Solana addresses are 32-44 base58 characters")
  | .unsupported n =>
    some ("Add an endpoint under [services." ++ n.service ++ "] in the configuration file")
  | .serviceFailure _ _ | .unreachable _ => none

end FetchError

/-- Why a request brought no answer. -/
inductive TransportError
  | tooManyRequests
  | status (code : Nat)
  | failed (reason : String)
deriving DecidableEq, Repr

namespace TransportError

/-- The text for the user. -/
def message : TransportError → String
  | .tooManyRequests => "HTTP 429 Too Many Requests"
  | .status code => "HTTP " ++ toString code
  | .failed reason => reason

/-- What the failure means for a fetch on the network. -/
def toFetchError (e : TransportError) (n : Network) : FetchError :=
  match e with
  | .tooManyRequests => .rateLimited n
  | e => .unreachable e.message

end TransportError

/-- What became of a request: the text of the answer, or why there is none. -/
abbrev Reply := Except TransportError String

namespace Reply

/-- The status of a reply that has no content. -/
def noContent : Nat := 204

/-- The reply that an HTTP status and a text make. A byte order mark in front of the text is no
part of it. -/
def ofHttp (status : Nat) (body : String) : Reply :=
  if status = 429 then .error .tooManyRequests
  else if status = noContent then .ok ""
  else if 200 ≤ status ∧ status < 300 then .ok (String.ofList (Text.withoutMark body.toList))
  else .error (.status status)

end Reply

end ContractScan
