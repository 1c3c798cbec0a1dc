import ContractScan.Network.Basic
import ContractScan.Text.Blank
import ContractScan.Text.LetterCase
import ContractScan.Text.Numeral
import ContractScan.Url.Basic

/-!
# Addresses

Which texts are addresses, and which network an address or the page of an explorer belongs to.
-/

namespace ContractScan

namespace Address

/-- An EVM address: `0x` and forty hexadecimal digits. -/
def isEvm (s : String) : Bool :=
  match s.toList with
  | '0' :: 'x' :: ds => ds.length = 40 && ds.all (Text.isDigitIn 16)
  | _ => false

/-- What looks like another character and is left out of the base58 alphabet. -/
def lookalikes : List Char := ['0', 'O', 'I', 'l']

/-- A character of the base58 alphabet. -/
def isBase58 (c : Char) : Bool := c.isAlphanum && !lookalikes.contains c

/-- A Solana address: 32 to 44 base58 characters. -/
def isSolana (s : String) : Bool :=
  let cs := s.toList
  32 ≤ cs.length && cs.length ≤ 44 && cs.all isBase58

end Address

namespace Network

/-- The text is an address on the network. -/
def isAddress (n : Network) (s : String) : Bool :=
  if n.isEvm then Address.isEvm s else Address.isSolana s

/-- The network that a hint names, in any ASCII letter case. -/
def ofHint? (hint : String) : Option Network :=
  let mentioned := fun words : List String ↦ words.any (Text.mentions hint)
  if mentioned ["bscscan", "bsc"] then some .bsc
  else if mentioned ["polygonscan", "polygon"] then some .polygon
  else if mentioned ["snowtrace", "avalanche"] then some .avalanche
  else if mentioned ["solana"] then some .solana
  else none

/-- The network that the form of an address tells. -/
def ofAddressForm (address : String) : Network :=
  if Address.isSolana address then .solana else .ethereum

/-- The network of an address, by the hint if that names one and else by the address. -/
def detect (address : String) (hint : Option String) : Network :=
  (hint.bind ofHint?).getD (ofAddressForm address)

/-- The host without any `www.` in front. -/
def withoutWww : List Char → List Char
  | 'w' :: 'w' :: 'w' :: '.' :: s => withoutWww s
  | s => s

/-- The network whose explorer has the host. -/
def ofExplorerHost? (host : List Char) : Option Network :=
  let name := String.ofList (withoutWww (host.map Char.toLower))
  all.find? fun n ↦ n.explorerHosts.contains name

/-- The segment after the first one that announces an address. -/
def announced? : List (List Char) → Option (List Char)
  | s :: rest =>
    if ["address", "account", "token"].contains (String.ofList s) then rest.head?
    else announced? rest
  | [] => none

/-- The address and the network that a page of an explorer is about. -/
def ofPage? (text : String) : Option (String × Network) := do
  let url ← Url.parse? (Text.trimmed text.toList)
  if !url.isHttp then none
  let network ← ofExplorerHost? (← url.host).render
  let address := Text.trimmed (← announced? (← url.pathSegments?))
  if address.isEmpty then none
  return (String.ofList address, network)

end Network

end ContractScan
