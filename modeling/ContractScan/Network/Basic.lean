import ContractScan.Json.Record

/-!
# Networks

The networks that contracts are fetched from, each with its explorer.
-/

namespace ContractScan

/-- A network that contracts are fetched from. -/
inductive Network
  | ethereum
  | bsc
  | polygon
  | avalanche
  | solana
deriving DecidableEq, Repr, Inhabited

namespace Network

/-- All networks. -/
def all : List Network := [.ethereum, .bsc, .polygon, .avalanche, .solana]

/-- The name in data. -/
def name : Network → String
  | .ethereum => "ethereum"
  | .bsc => "bsc"
  | .polygon => "polygon"
  | .avalanche => "avalanche"
  | .solana => "solana"

/-- The network of the given name. -/
def ofName? (s : String) : Option Network :=
  all.find? fun v ↦ v.name == s

/-- The name in reports. -/
def title : Network → String
  | .ethereum => "Ethereum Mainnet"
  | .bsc => "Binance Smart Chain"
  | .polygon => "Polygon (Matic)"
  | .avalanche => "Avalanche C-Chain"
  | .solana => "Solana Mainnet"

/-- The service under which the network is configured. -/
def service : Network → String
  | .ethereum => "etherscan"
  | .bsc => "bscscan"
  | .polygon => "polygonscan"
  | .avalanche => "snowtrace"
  | .solana => "solana"

/-- The beginning of the explorer's page for an address. -/
def explorerPage : Network → String
  | .ethereum => "https://etherscan.io/address/"
  | .bsc => "https://bscscan.com/address/"
  | .polygon => "https://polygonscan.com/address/"
  | .avalanche => "https://snowtrace.io/address/"
  | .solana => "https://explorer.solana.com/address/"

/-- The hosts of explorers of the network. -/
def explorerHosts : Network → List String
  | .ethereum => ["etherscan.io"]
  | .bsc => ["bscscan.com"]
  | .polygon => ["polygonscan.com"]
  | .avalanche => ["snowtrace.io"]
  | .solana => ["explorer.solana.com", "solscan.io"]

/-- The page that hands out keys for the explorer. -/
def keyPage? : Network → Option String
  | .ethereum | .polygon => some "https://etherscan.io/apis"
  | .bsc => some "https://bscscan.com/apis"
  | .avalanche => some "https://snowtrace.io/apis"
  | .solana => none

/-- The environment variable that holds a key for the explorer. -/
def keyVariable? : Network → Option String
  | .ethereum => some "ETHERSCAN_API_KEY"
  | .bsc => some "BSCSCAN_API_KEY"
  | .polygon => some "POLYGONSCAN_API_KEY"
  | .avalanche => some "SNOWTRACE_API_KEY"
  | .solana => none

/-- The network is one of the EVM chains. -/
def isEvm : Network → Bool
  | .solana => false
  | _ => true

/-- The network as a value. -/
def toJson (n : Network) : Json := .text n.name

/-- What a list of networks says about the network. -/
def toListing (n : Network) : Json := .object [
  ("network", n.toJson),
  ("description", .text n.title),
  ("service", .text n.service),
  ("explorer", .text n.explorerPage)]

/-- Reading a name gives the network that bears it. -/
theorem ofName?_name (n : Network) : ofName? n.name = some n := by
  cases n <;> decide

end Network

end ContractScan
