import ContractScan.Url.Form
import ContractScan.Url.Host
import ContractScan.Url.Path

/-!
# URLs

Absolute URLs: a scheme, an authority with user information, host and port, and a path, a query
and a fragment.
-/

namespace ContractScan

namespace Url

/-- User information, as it stands in a URL. -/
structure User where
  name : List Char
  /-- What follows the colon, if that is not empty. -/
  password : Option (List Char)
deriving DecidableEq, Repr

end Url

/-- An absolute URL. -/
structure Url where
  scheme : List Char
  /-- Two slashes stand before the host or, where there is none, before the path. -/
  hasAuthority : Bool
  user : Option Url.User
  host : Option Url.Host
  /-- The port, unless it is the default of the scheme. -/
  port : Option Nat
  path : Url.Path
  query : Option (List Char)
  fragment : Option (List Char)
deriving DecidableEq, Repr

namespace Url

/-- The default port of a scheme. -/
def defaultPort? (scheme : List Char) : Option Nat :=
  [("http", 80), ("https", 443), ("ws", 80), ("wss", 443), ("ftp", 21)].lookup
    (String.ofList scheme)

/-- How a scheme is treated. -/
def kind (scheme : List Char) : Kind :=
  if (defaultPort? scheme).isSome then .web
  else if scheme = "file".toList then .file
  else .other

/-- The scheme in lower case and what follows its colon. -/
def scheme? (s : List Char) : Option (List Char × List Char) :=
  let (front, rest) := s.span fun c ↦
    c.isAlphanum || ['+', '-', '.'].contains c || isBreak c
  match Path.dropBreaks front, rest with
  | c :: cs, ':' :: r => if c.isAlpha then some ((c :: cs).map Char.toLower, r) else none
  | _, _ => none

/-- The user information in a text, if it says anything. -/
def user? (s : List Char) : Option User :=
  let (name, rest) := s.span (· ≠ ':')
  let password := rest.drop 1
  if name.isEmpty && password.isEmpty then none
  else some {
    name := percentEncode userSet name
    password := if password.isEmpty then none else some (percentEncode userSet password) }

/-- What an authority begins with up to its last at sign, and what follows that. -/
def splitUser (authority : List Char) : Option (List Char) × List Char :=
  let back := (authority.reverse.takeWhile (· ≠ '@')).reverse
  if authority.length = back.length then (none, authority)
  else (some (authority.take (authority.length - back.length - 1)), back)

/-- The host and what follows it, which is a colon inside no brackets or nothing. -/
def splitPort (inBrackets : Bool) : List Char → List Char × List Char
  | [] => ([], [])
  | c :: s =>
    if c = ':' ∧ !inBrackets then ([], c :: s)
    else
      let (h, r) := splitPort (if c = '[' then true else if c = ']' then false else inBrackets) s
      (c :: h, r)

/-- The port after a colon: digits alone, up to 65535, and none for the default. A backslash always
ends it. -/
def port? (scheme : List Char) : List Char → Option (Option Nat)
  | ':' :: ds =>
    if ds.isEmpty then some none
    else
      match Text.numeral? 10 ds with
      | none => none
      | some n =>
        if n > 65535 then none
        else some (if defaultPort? scheme = some n then none else some n)
  | _ => some none

/-- The query after a question mark. Special schemes encode the apostrophe, too. -/
def query? (k : Kind) : List Char → Option (List Char)
  | '?' :: q => some (percentEncode (fun c ↦ querySet c || (k ≠ .other && c = '\'')) q)
  | _ => none

/-- The fragment after a number sign. -/
def fragment? : List Char → Option (List Char)
  | '#' :: f => some (percentEncode fragmentSet f)
  | _ => none

/-- What follows the scheme, in its parts. -/
structure Parts where
  /-- What stands before query and fragment. -/
  front : List Char
  query : Option (List Char)
  fragment : Option (List Char)

/-- The parts of the text that follows a scheme of the given kind. -/
def partsOf (k : Kind) (s : List Char) : Parts :=
  let (text, fragment) := s.span (· ≠ '#')
  let (front, query) := text.span (· ≠ '?')
  ⟨front, query? k (Path.dropBreaks query), fragment? (Path.dropBreaks fragment)⟩

/-- The URL of a scheme with an authority, after the slashes in front of it. An at sign in front
of everything stands for no user information, but something has to follow it unless the URL ends
there; and neither user information nor a port goes without a host. -/
def withAuthority? (scheme : List Char) (parts : Parts) (s : List Char) : Option Url := do
  let k := kind scheme
  let (authority, pathText) := s.span fun c ↦ !isSlash k c
  let (userText, hostPort) := splitUser authority
  if userText = some [] && hostPort.isEmpty &&
      (!pathText.isEmpty || parts.query.isSome || parts.fragment.isSome) then none
  let user := userText.bind user?
  let (hostText, afterHost) := splitPort false hostPort
  let (portText, backslashed) := afterHost.span (· ≠ '\\')
  if hostText.isEmpty && (k = .web || user.isSome || !portText.isEmpty) then none
  let host ← if k = .other then Host.other? hostText else Host.special? hostText
  let port ← port? scheme portText
  return {
    scheme, user, port
    hasAuthority := true
    host := if hostText.isEmpty then none else some host
    path := (Path.read k (backslashed ++ pathText)).1
    query := parts.query
    fragment := parts.fragment }

/-- The host of a file URL; the machine itself is no host. -/
def fileHost? (s : List Char) : Option (Option Host) :=
  if s.isEmpty then some none
  else (Host.special? s).map fun h ↦ if h = .domain "localhost".toList then none else some h

/-- The URL of a file: the host is given only after two slashes, unless a drive letter stands
there, and a drive letter at the beginning of the path drops it. -/
def ofFile? (parts : Parts) : Option Url := do
  let slashes := (parts.front.takeWhile (isSlash .file)).length
  let afterSlashes := parts.front.drop 2
  let (hostText, rest) := afterSlashes.span fun c ↦ !isSlash .file c
  let hostText := Path.dropBreaks hostText
  let (host, rest) ←
    if slashes < 2 then some (none, parts.front)
    else if isDriveLetter hostText then some (none, afterSlashes)
    else (fileHost? hostText).map fun h ↦ (h, rest)
  let (path, drive) := Path.read .file rest
  return {
    scheme := "file".toList
    hasAuthority := true
    user := none
    host := if drive then none else host
    port := none
    path
    query := parts.query
    fragment := parts.fragment }

/-- The URL of a scheme without an authority. -/
def withoutAuthority (scheme : List Char) (parts : Parts) : Url where
  scheme
  hasAuthority := false
  user := none
  host := none
  port := none
  path :=
    if parts.front.head? = some '/' then (Path.read .other parts.front).1
    else .plain (percentEncode isControl parts.front)
  query := parts.query
  fragment := parts.fragment

/-- The text without control characters and spaces at its ends. -/
def trimmed (s : List Char) : List Char :=
  let edge := fun c : Char ↦ decide (c.toNat ≤ 0x20)
  ((s.dropWhile edge).reverse.dropWhile edge).reverse

/-- The absolute URL that the text stands for. -/
def parse? (text : List Char) : Option Url := do
  let (scheme, rest) ← scheme? (trimmed text)
  match kind scheme with
  | .file => ofFile? (partsOf .file (Path.keepBreaks rest))
  | .web =>
    let parts := partsOf .web (Path.dropBreaks rest)
    withAuthority? scheme parts (parts.front.dropWhile (isSlash .web))
  | .other =>
    let parts := partsOf .other (Path.dropBreaks rest)
    match parts.front with
    | '/' :: '/' :: s => withAuthority? scheme parts s
    | _ => some (withoutAuthority scheme parts)

/-- The scheme is that of web pages. -/
def isHttp (u : Url) : Bool := u.scheme = "http".toList || u.scheme = "https".toList

/-- The segments of the path, if it has any. -/
def pathSegments? (u : Url) : Option (List (List Char)) :=
  match u.path with
  | .segments ps => some ps
  | .plain _ => none

/-- The path as text. -/
def pathText (u : Url) : List Char :=
  match u.path with
  | .segments ps => ps.flatMap fun p ↦ '/' :: p
  | .plain s => s

/-- The URL with pairs added to its query as in a form. -/
def addPairs (u : Url) (pairs : List (String × String)) : Url :=
  let old := u.query.getD []
  let new := formPairs pairs
  { u with query := some (if old.isEmpty then new else old ++ '&' :: new) }

/-- A part of the URL with the character that begins it, if there is one. -/
def marked (mark : Char) : Option (List Char) → List Char
  | some s => mark :: s
  | none => []

/-- Path and query, as a request asks for them. -/
def target (u : Url) : List Char := u.pathText ++ marked '?' u.query

/-- User information as text, with the at sign that ends it. -/
def User.render (u : User) : List Char := u.name ++ marked ':' u.password ++ ['@']

/-- What stands between scheme and path. A path that begins like an authority is kept apart from
the scheme by a segment that stays. -/
def authorityText (u : Url) : List Char :=
  if u.hasAuthority then
    "//".toList ++ (u.user.map User.render).getD [] ++ (u.host.map Host.render).getD [] ++
      marked ':' (u.port.map (Nat.toDigits 10))
  else if "//".toList.isPrefixOf u.pathText && u.pathSegments?.isSome then "/.".toList
  else []

/-- The text of the URL. -/
def render (u : Url) : List Char :=
  u.scheme ++ ':' :: (u.authorityText ++ u.target ++ marked '#' u.fragment)

end Url

end ContractScan
