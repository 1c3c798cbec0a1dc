import ContractScan.Fetch.Error
import ContractScan.Settings.Basic
import ContractScan.Url.Basic

/-!
# Requests

What is sent to a service, and the line it makes in HTTP.
-/

namespace ContractScan

/-- What is sent to a service. -/
inductive Request
  | get (url : String) (query : List (String × String))
  | post (url : String) (body : Json)
deriving Repr

namespace Request

/-- The text of the URL. -/
def url : Request → String
  | .get url _ | .post url _ => url

/-- The body, if the request has one. -/
def body? : Request → Option Json
  | .get _ _ => none
  | .post _ body => some body

/-- User information can be sent in a header: its name is a text and it says who asks, or has a
password that is one. -/
def canSendUser (u : Url.User) : Bool :=
  let readable := fun s : List Char ↦ (Url.utf8Decode? (Url.percentDecode s)).isSome
  readable u.name && (!u.name.isEmpty || u.password.any readable)

/-- The URL without user information that is sent otherwise. -/
def withoutUser (u : Url) : Url := { u with user := u.user.filter fun i ↦ !canSendUser i }

/-- The URL without a query that is there but empty. -/
def withoutEmptyQuery (u : Url) : Url := { u with query := u.query.filter fun q ↦ !q.isEmpty }

/-- The URL that the request goes to, with the pairs of its query, if the text is one. -/
def target? (r : Request) : Option Url :=
  (Url.parse? r.url.toList).map fun u ↦
    if u.host.isNone then u
    else
      match r with
      | .get _ query => withoutEmptyQuery ((withoutUser u).addPairs query)
      | .post _ _ => withoutUser u

/-- The method and what it asks for, if the URL is one. -/
def line? (r : Request) : Option String :=
  r.target?.map fun u ↦
    let method :=
      match r with
      | .get _ _ => "GET "
      | .post _ _ => "POST "
    String.ofList (method.toList ++ u.target)

/-- The text of the URL that the request goes to. -/
def targetText (r : Request) : String := String.ofList ((r.target?.map Url.render).getD [])

/-- The longest text of a URL that can be asked for. -/
def maxLength : Nat := 65534

/-- The quotes and braces that the name of a host may hold, but not where it is asked. -/
def neverAsked : List Char := ['"', '\x60', '\x7b', '\x7d']

/-- A host that can be asked. -/
def canAsk (h : Url.Host) : Bool := h.render.all fun c ↦ !neverAsked.contains c

/-- Why the request cannot go out at all: it needs a host that can be asked, a scheme of the web,
and a text that is not too long. -/
def fault? (r : Request) : Option TransportError :=
  match r.target? with
  | none => some (.failed "builder error")
  | some u =>
    let text := u.render
    if u.isHttp && u.host.any canAsk && text.length ≤ maxLength then none
    else some (.failed ("builder error for url (" ++ String.ofList text ++ ")"))

end Request

/-- A name that may be given to the services as that of the program: no control characters other
than tabs. -/
def FetchSettings.agentAllowed (s : FetchSettings) : Bool :=
  s.userAgent.toList.all fun c ↦ c = '\t' || (0x20 ≤ c.toNat && c.toNat ≠ 0x7f)

/-- The last second that a clock of 64 bits with sign can show. -/
def lastSecond : Nat := Int64.maxValue.toInt.toNat

/-- The time at which a request is given up can be told. The clock counts from when the system
started, and for that 32 bits are enough. -/
def FetchSettings.deadlineExists (s : FetchSettings) : Bool :=
  s.timeoutSeconds.toNat + UInt32.size ≤ lastSecond

end ContractScan
