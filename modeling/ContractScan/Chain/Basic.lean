import ContractScan.Rule.Basic

/-!
# Chains

The chains that a source may be written for, what is known about them, and the rule sets that
apply to each.
-/

namespace ContractScan

/-- A chain that a source may be written for. -/
inductive Chain
  | ethereum
  | solana
  | bsc
  | polygon
  | avalanche
  | fantom
  | unknown
deriving DecidableEq, Repr, Inhabited

/-- What is known about a chain. -/
structure ChainInfo where
  name : String
  language : String
  explorer : String
  consensus : String
  description : String
deriving DecidableEq, Repr

namespace Chain

/-- All chains. -/
def all : List Chain := [.ethereum, .solana, .bsc, .polygon, .avalanche, .fantom, .unknown]

/-- The name in data. -/
def name : Chain → String
  | .ethereum => "ethereum"
  | .solana => "solana"
  | .bsc => "bsc"
  | .polygon => "polygon"
  | .avalanche => "avalanche"
  | .fantom => "fantom"
  | .unknown => "unknown"

/-- The chain of the given name. -/
def ofName? (s : String) : Option Chain :=
  all.find? fun v ↦ v.name == s

/-- The name in reports. -/
def title : Chain → String
  | .ethereum => "Ethereum"
  | .solana => "Solana"
  | .bsc => "Binance Smart Chain"
  | .polygon => "Polygon"
  | .avalanche => "Avalanche"
  | .fantom => "Fantom"
  | .unknown => "Unknown"

/-- What is known about the chain. -/
def info? : Chain → Option ChainInfo
  | .ethereum => some {
      name := "Ethereum"
      language := "Solidity"
      explorer := "Etherscan"
      consensus := "Proof of Stake"
      description := "Original smart contract platform" }
  | .solana => some {
      name := "Solana"
      language := "Rust/Anchor"
      explorer := "Solana Explorer"
      consensus := "Proof of History"
      description := "High-performance blockchain with Rust programs" }
  | .bsc => some {
      name := "Binance Smart Chain"
      language := "Solidity"
      explorer := "BSCScan"
      consensus := "Proof of Authority"
      description := "Binance's EVM-compatible blockchain" }
  | .polygon => some {
      name := "Polygon"
      language := "Solidity"
      explorer := "PolygonScan"
      consensus := "Proof of Stake"
      description := "Ethereum scaling solution" }
  | .avalanche => some {
      name := "Avalanche"
      language := "Solidity"
      explorer := "SnowTrace"
      consensus := "Avalanche Consensus"
      description := "Fast, low-cost blockchain platform" }
  | .fantom | .unknown => none

/-- The rule sets that apply, in the order in which they run: one base set, and for some chains
an overlay after it. -/
def ruleSets : Chain → List RuleSet
  | .solana => [.solana]
  | .bsc => [.evm, .bscOverlay]
  | .polygon => [.evm, .polygonOverlay]
  | .avalanche => [.evm, .avalancheOverlay]
  | .ethereum | .fantom | .unknown => [.evm]

/-- Reading a name gives the chain that bears it. -/
theorem ofName?_name (c : Chain) : ofName? c.name = some c := by
  cases c <;> decide

end Chain

end ContractScan
