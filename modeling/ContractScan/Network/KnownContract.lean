import ContractScan.Network.Basic

/-!
# Known contracts

Well-known verified contracts, as examples of what can be fetched.
-/

namespace ContractScan

/-- A well-known contract. -/
structure KnownContract where
  address : String
  name : String
  network : Network
  description : String
  popular : Bool
deriving DecidableEq, Repr

namespace KnownContract

/-- All known contracts. -/
def all : List KnownContract := [
  ⟨"0xA0b86a33E6441F8C23b5C0B9F2E3D6c96C5F6E98", "USDC Token", .ethereum,
    "USD Coin - popular stablecoin", true⟩,
  ⟨"0x6B175474E89094C44Da98b954EedeAC495271d0F", "DAI Token", .ethereum,
    "Dai Stablecoin - decentralized stablecoin", true⟩,
  ⟨"0x1f9840a85d5aF5bf1D1762F925BDADdC4201F984", "Uniswap Token", .ethereum,
    "UNI - Uniswap governance token", true⟩,
  ⟨"0x7D1AfA7B718fb893dB30A3aBc0Cfc608AaCfeBB0", "Matic Token", .ethereum,
    "MATIC - Polygon's native token", true⟩,
  ⟨"0x55d398326f99059fF775485246999027B3197955", "USDT BSC", .bsc,
    "Tether USD on Binance Smart Chain", true⟩,
  ⟨"0xe9e7CEA3DedcA5984780Bafc599bD69ADd087D56", "BUSD", .bsc,
    "Binance USD - BSC stablecoin", true⟩,
  ⟨"0x0E09FaBB73Bd3Ade0a17ECC321fD13a19e81cE82", "PancakeSwap Token", .bsc,
    "CAKE - PancakeSwap governance token", true⟩,
  ⟨"0x7ceB23fD6bC0adD59E62ac25578270cFf1b9f619", "WETH Polygon", .polygon,
    "Wrapped Ethereum on Polygon", true⟩,
  ⟨"0x2791Bca1f2de4661ED88A30C99A7a9449Aa84174", "USDC Polygon", .polygon,
    "USD Coin on Polygon network", true⟩,
  ⟨"0x514910771AF9Ca656af840dff83E8264EcF986CA", "Chainlink Token", .ethereum,
    "LINK - Chainlink oracle token", false⟩,
  ⟨"0xBB0E17EF65F82Ab018d8EDd776e8DD940327B28b", "Axie Infinity", .ethereum,
    "AXS - Axie Infinity governance token", false⟩]

/-- The known contracts on one network, or on all. -/
def on (network : Option Network) : List KnownContract :=
  match network with
  | some n => all.filter fun c ↦ c.network == n
  | none => all

/-- The explorer's page of the contract. -/
def page (c : KnownContract) : String := c.network.explorerPage ++ c.address

/-- The contract as a value. -/
def toJson (c : KnownContract) : Json := .object [
  ("address", .text c.address),
  ("name", .text c.name),
  ("network", c.network.toJson),
  ("description", .text c.description),
  ("popular", .bool c.popular)]

end KnownContract

end ContractScan
