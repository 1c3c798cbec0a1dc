import ContractScan.Text.Normal
import ContractScan.Url.Idna.Allowed
import ContractScan.Url.Idna.Direction
import ContractScan.Url.Idna.Joiner
import ContractScan.Url.Idna.Mapping
import ContractScan.Url.Percent
import ContractScan.Url.Punycode

/-!
# International domain names

The ASCII form of a domain name. Its characters are replaced and composed; then each label with
characters beyond ASCII is encoded, and each label that is encoded already must stand for one that
could be. A name that breaks a rule has no ASCII form.
-/

namespace ContractScan.Url.Idna

/-- What the character becomes, if it is allowed. -/
def mapped? (c : Char) : Option (List Char) :=
  if c.toNat < 128 then some [c.toLower]
  else if isAllowed c then some ((replacement? c).getD [c])
  else none

/-- The beginning of encoded labels. -/
def encodedStart : List Char := "xn--".toList

/-- A label, as it stands in the ASCII form and as it is read. -/
structure Label where
  ascii : List Char
  meaning : List Char
deriving DecidableEq, Repr

namespace Label

/-- A label that holds characters beyond ASCII is well-formed: it does not begin with a mark, nor
like an encoded one, and its joiners stand where they may. -/
def wellFormed (s : List Char) : Bool :=
  !s.head?.any Text.isMark && !encodedStart.isPrefixOf s && joinersFit [] s

/-- Nothing of the label is replaced or composed. -/
def settled (s : List Char) : Bool :=
  s.all (fun c ↦ mapped? c == some [c]) && Text.composed s == s

/-- The greatest length of a label that is to be encoded. -/
def maxLength : Nat := 1000

/-- The greatest length of what is to be decoded. -/
def maxEncodedLength : Nat := 2000

/-- The label that is encoded in the rest of one. -/
def ofEncoded? (s : List Char) : Option Label := do
  if s.length > maxEncodedLength || s.getLast? = some '-' then none
  let meaning ← Punycode.decode? s
  if meaning.all Punycode.isBasic || !settled meaning || !wellFormed meaning then none
  return ⟨encodedStart ++ s, meaning⟩

/-- The label that is written so, after replacement and composition. -/
def ofText? (s : List Char) : Option Label :=
  if s.all Punycode.isBasic then
    if encodedStart.isPrefixOf s then ofEncoded? (s.drop encodedStart.length) else some ⟨s, s⟩
  else if s.length ≤ maxLength && wellFormed s then some ⟨encodedStart ++ Punycode.encode s, s⟩
  else none

end Label

/-- The ASCII form of a domain name. -/
def toAscii? (name : List Char) : Option (List Char) := do
  let text ← name.mapM mapped?
  let labels ← ((Text.composed text.flatten).splitOn '.').mapM Label.ofText?
  if labels.any (·.meaning.any goesRight) && !labels.all (oneDirection ·.meaning) then none
  return ['.'].intercalate (labels.map Label.ascii)

end ContractScan.Url.Idna
