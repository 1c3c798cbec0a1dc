import ContractScan.Network.Basic

/-!
# Fetched contracts

What an explorer tells about a contract.
-/

namespace ContractScan

/-- The source of a contract and what else is known about it. -/
structure Contract where
  address : String
  source : String
  name : String
  compiler : String
  network : Network
  /-- The source has been verified, so it is really there. -/
  verified : Bool
  /-- The explorer's page of the contract. -/
  page : String
  abi : Option String
  constructorArguments : Option String
deriving DecidableEq, Repr

namespace Contract

/-- There is source to analyse: for an unverified account on Solana there is only a note. -/
def analyzable (c : Contract) : Bool := c.verified || c.network != .solana

/-- The contract as a value. -/
def toJson (c : Contract) : Json := .object [
  ("address", .text c.address),
  ("sourceCode", .text c.source),
  ("contractName", .text c.name),
  ("compilerVersion", .text c.compiler),
  ("blockchain", c.network.toJson),
  ("isVerified", .bool c.verified),
  ("explorerUrl", .text c.page),
  ("abi", .optText c.abi),
  ("constructorArgs", .optText c.constructorArguments)]

end Contract

end ContractScan
