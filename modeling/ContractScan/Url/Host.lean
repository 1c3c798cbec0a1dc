import ContractScan.Text.Numeral
import ContractScan.Url.Idna

/-!
# Hosts

A host is a domain name, an address of either kind of the Internet protocol, or, for schemes
without rules of their own, a verbatim text.
-/

namespace ContractScan.Url

/-- The host of a URL. -/
inductive Host
  | domain (name : List Char)
  | ipv4 (address : Nat)
  | ipv6 (pieces : List Nat)
  | verbatim (text : List Char)
deriving DecidableEq, Repr

namespace Host

/-- A part of an address in numbers: decimal, octal after a zero, or hexadecimal. -/
def part? (s : List Char) : Option Nat :=
  match s with
  | [] => none
  | '0' :: 'x' :: r | '0' :: 'X' :: r => if r.isEmpty then some 0 else Text.numeral? 16 r
  | '0' :: c :: r => Text.numeral? 8 (c :: r)
  | s => Text.numeral? 10 s

/-- The parts of a name between dots, without an empty one at the end. -/
def parts (s : List Char) : List (List Char) :=
  let ps := s.splitOn '.'
  if ps.getLast? = some [] then ps.dropLast else ps

/-- The last part of the name is a number, so the whole must be an address in numbers. -/
def endsInNumber (s : List Char) : Bool :=
  match (parts s).getLast? with
  | none => false
  | some p => (!p.isEmpty && p.all Char.isDigit) || (part? p).isSome

/-- The address that the parts stand for, of which the last one fills the remaining bytes. -/
def ipv4? (s : List Char) : Option Nat := do
  let ps := parts s
  if ps.length > 4 then none
  let ns ← ps.mapM part?
  let last ← ns.getLast?
  let front := ns.dropLast
  if last ≥ 1 <<< (8 * (4 - front.length)) || front.any (· > 255) then none
  return front.zipIdx.foldl (fun a (n, i) ↦ a + n <<< (8 * (3 - i))) last

/-- The two pieces of an address in four decimal bytes. -/
def ipv4Pieces? (s : List Char) : Option (List Nat) := do
  let ps := s.splitOn '.'
  if ps.length ≠ 4 || ps.any (fun p ↦ p.length > 1 && p.head? = some '0') then none
  let ns ← ps.mapM (Text.numeral? 10)
  match ns with
  | [a, b, c, d] => if ns.any (· > 255) then none else some [a * 256 + b, c * 256 + d]
  | _ => none

/-- A piece of up to four hexadecimal digits. -/
def piece? (s : List Char) : Option (List Nat) :=
  if s.length > 4 then none else (Text.numeral? 16 s).map fun n ↦ [n]

/-- The pieces between colons; the last one may be an address in four bytes. -/
def pieces? : List (List Char) → Option (List Nat)
  | [] => some []
  | [p] => if p.contains '.' then ipv4Pieces? p else piece? p
  | p :: ps => do
    let n ← piece? p
    let ns ← pieces? ps
    return n ++ ns

/-- The pieces of a part of an address on one side of the gap. -/
def side? (s : List Char) : Option (List Nat) :=
  if s.isEmpty then some [] else pieces? (s.splitOn ':')

/-- The text around the first pair of colons. -/
def atGap : List Char → Option (List Char × List Char)
  | ':' :: ':' :: s => some ([], s)
  | c :: s => (atGap s).map fun (a, b) ↦ (c :: a, b)
  | [] => none

/-- The eight pieces of an address, where a pair of colons stands for one or more zeros. -/
def ipv6? (s : List Char) : Option (List Nat) :=
  match atGap s with
  | none => (pieces? (s.splitOn ':')).filter fun ps ↦ ps.length = 8
  | some (a, b) => do
    let front ← if a.contains '.' then none else side? a
    let back ← side? b
    if front.length + back.length > 7 then none
    return front ++ List.replicate (8 - front.length - back.length) 0 ++ back

/-- What no domain name may hold. -/
def forbiddenInDomain (c : Char) : Bool :=
  c.toNat ≤ 0x20 || c.toNat = 0x7f ||
    ['#', '/', ':', '<', '>', '?', '@', '[', '\\', ']', '^', '|', '%'].contains c

/-- What no verbatim host may hold. -/
def forbiddenVerbatim (c : Char) : Bool :=
  ['\x00', '\t', '\n', '\r', ' ', '#', '/', ':', '<', '>', '?', '@', '[', '\\', ']', '^',
    '|'].contains c

/-- The address between brackets, if the text begins with one. -/
def bracketed? (s : List Char) : Option (Option Host) :=
  match s with
  | '[' :: r =>
    if r.getLast? = some ']' then some ((ipv6? r.dropLast).map .ipv6) else some none
  | _ => none

/-- The host of a URL of a special scheme. -/
def special? (s : List Char) : Option Host :=
  match bracketed? s with
  | some h => h
  | none => do
    let decoded ← utf8Decode? (percentDecode s)
    let name ← Idna.toAscii? decoded
    if name.isEmpty || name.any forbiddenInDomain then none
    if endsInNumber name then (ipv4? name).map .ipv4 else some (.domain name)

/-- The host of a URL of any other scheme. -/
def other? (s : List Char) : Option Host :=
  match bracketed? s with
  | some h => h
  | none =>
    if s.any forbiddenVerbatim then none else some (.verbatim (percentEncode isControl s))

/-- The bytes of an address, joined by dots. -/
def renderIpv4 (a : Nat) : List Char :=
  ['.'].intercalate ([24, 16, 8, 0].map fun k ↦ Nat.toDigits 10 (a >>> k % 256))

/-- How many zeros the pieces begin with. -/
def zeros (ps : List Nat) : Nat := (ps.takeWhile (· = 0)).length

/-- The place and length of the longest row of zeros from piece `i` on, the first of several. -/
def longestZeros (i : Nat) : List Nat → Nat × Nat
  | [] => (i, 0)
  | p :: ps =>
    let here := zeros (p :: ps)
    let later := longestZeros (i + 1) ps
    if later.2 ≤ here then (i, here) else later

/-- The pieces in hexadecimal, joined by colons. -/
def renderPieces (ps : List Nat) : List Char := [':'].intercalate (ps.map (Nat.toDigits 16))

/-- The pieces of an address in brackets, the longest row of at least two zeros left out. -/
def renderIpv6 (ps : List Nat) : List Char :=
  let (i, n) := longestZeros 0 ps
  let body :=
    if n < 2 then renderPieces ps
    else renderPieces (ps.take i) ++ "::".toList ++ renderPieces (ps.drop (i + n))
  '[' :: (body ++ [']'])

/-- The host as it stands in a URL. -/
def render : Host → List Char
  | .domain name => name
  | .ipv4 a => renderIpv4 a
  | .ipv6 ps => renderIpv6 ps
  | .verbatim s => s

end Host

end ContractScan.Url
