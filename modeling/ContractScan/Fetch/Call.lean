import ContractScan.Fetch.Account
import ContractScan.Fetch.Explorer
import ContractScan.Fetch.Pace
import ContractScan.Fetch.Request
import ContractScan.Network.Address
import ContractScan.Settings.Basic

/-!
# Fetching contracts

A call asks for the contract at an address. If the address is one on the network and the network's
service is configured, a single request goes out, and what comes back decides; otherwise there is
no request. A session is a row of calls at one pace.
-/

namespace ContractScan

/-- A wish for the contract at an address: on a network, or on the one that is told from a hint
and the form of the address. -/
inductive Call
  | on (network : Network) (address : String)
  | detected (address : String) (hint : Option String)
deriving DecidableEq, Repr

namespace Call

/-- The network and the address that are meant. -/
def target : Call → Network × String
  | .on n a => (n, a)
  | .detected a hint => (Network.detect (Text.trim a) hint, Text.trim a)

end Call

/-- The request for the contract at the address, unless there can be none. -/
def Settings.request (s : Settings) (n : Network) (address : String) :
    Except FetchError Request :=
  if !n.isAddress address then .error (.invalidAddress address n)
  else
    match s.endpoint? n.service with
    | none => .error (.unsupported n)
    | some url =>
      .ok (if n.isEvm then
          .get url (Explorer.sourceQuery address (s.key n.service)
            ((s.chainId? n.service).map UInt64.toNat))
        else .post url (Account.request address))

/-- What a reply to the request for the contract means. -/
def Reply.contract (r : Reply) (n : Network) (address : String) : Except FetchError Contract :=
  match r with
  | .error e => .error (e.toFetchError n)
  | .ok body =>
    if n.isEvm then Explorer.interpret n address body else Account.interpret address body

/-- What became of a call: the request that went out, if any, and the result. -/
structure Visit where
  request : Option Request
  result : Except FetchError Contract

/-- The visit to the network's service when `reply` is what comes back. -/
def Settings.visit (s : Settings) (c : Call) (reply : Reply) : Visit :=
  let (n, address) := c.target
  match s.request n address with
  | .error e => ⟨none, .error e⟩
  | .ok r => ⟨some r, reply.contract n address⟩

/-- A row of calls under the same settings. -/
structure Session where
  settings : Settings
  pace : Pace

namespace Session

/-- A session before its first call. -/
def start (s : Settings) : Session := ⟨s, { interval := s.fetch.interval.toNat }⟩

/-- A call that is made at the time `now` and whose request, if there is one, goes out `late`
after it has waited. -/
structure Turn where
  call : Call
  now : Nat := 0
  late : Nat := 0
deriving DecidableEq, Repr

/-- The session after a visit: only a request moves the pace. -/
def after (s : Session) (t : Turn) (v : Visit) : Session :=
  if v.request.isSome then { s with pace := s.pace.after (s.pace.departure t.now t.late) } else s

/-- The visits of a row of calls. Each request takes the next of the replies, and `lastly` when
there is none left. -/
def run (s : Session) (lastly : Reply) : List Reply → List Turn → List Visit
  | _, [] => []
  | replies, t :: ts =>
    let v := s.settings.visit t.call (replies.headD lastly)
    v :: run (s.after t v) lastly (if v.request.isSome then replies.tail else replies) ts

end Session

end ContractScan
