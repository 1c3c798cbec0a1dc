import ContractScan.Rule.Basic

/-!
# Overlay rules

Weaknesses that are looked for on one EVM chain only, in addition to the base rules. These
patterns stay on one line.
-/

namespace ContractScan.Rule.Overlay

open Pattern CharClass

/-- Liquidity that the owner may take away. -/
def pancakeswapRug : Rule where
  id := "pancakeswap_rug"
  set := .bscOverlay
  weakness := "Rug Pull"
  severity := .critical
  pattern := oneOf (sequence [text "PancakeSwap", line, text "rugpull"]) [
    sequence [text "removeLiquidity", line, text "onlyOwner"]]
  description := "Potential rug pull mechanism"
  explanation := "Contract may allow owner to remove liquidity unexpectedly"
  recommendation := "Implement timelocks and community governance"

/-- The head of a transfer function on a line without a later check. -/
def bep20Issues : Rule where
  id := "bep20_issues"
  set := .bscOverlay
  weakness := "Token Standard"
  severity := .medium
  pattern := sequence [
    text "function", many .blank, text "transfer", line, text "returns", blanks, text "(",
    blanks, text "bool", blanks, text ")", notAhead (sequence [line, text "require"])]
  description := "BEP-20 transfer without checks"
  explanation := "BEP-20 transfers should include proper validation"
  recommendation := "Add require statements for transfer validation"

/-- A deposit or withdrawal on the bridge. The look ahead stands where the line has already been
taken to its end, so it never stops a match. -/
def maticBridgeIssues : Rule where
  id := "matic_bridge_issues"
  set := .polygonOverlay
  weakness := "Bridge Security"
  severity := .high
  pattern := sequence [
    anyText "deposit" ["withdraw"], line, text "Matic", line,
    notAhead (sequence [line, text "checkpoint"])]
  description := "Potential bridge operation without checkpoint"
  explanation := "Polygon bridge operations should include checkpoint validation"
  recommendation := "Implement proper checkpoint validation"

/-- A loop that reads a length each time round. -/
def gasOptimization : Rule where
  id := "gas_optimization"
  set := .polygonOverlay
  weakness := "Gas Optimization"
  severity := .low
  pattern := sequence [text "for", blanks, text "(", line, text "length", line, text "++)"]
  description := "Gas inefficient loop"
  explanation := "Polygon gas costs can be optimized with better loop patterns"
  recommendation := "Cache array length and use unchecked increments"

/-- The block's time on a line that speaks of finality. -/
def avalancheConsensus : Rule where
  id := "avalanche_consensus"
  set := .avalancheOverlay
  weakness := "Consensus"
  severity := .medium
  pattern := sequence [text "block.timestamp", line, text "finality"]
  description := "Avalanche consensus timing issue"
  explanation := "Avalanche has different finality guarantees than Ethereum"
  recommendation := "Account for Avalanche's consensus mechanism"

/-- The overlay rules of all chains. -/
def rules : List Rule := [
  pancakeswapRug, bep20Issues, maticBridgeIssues, gasOptimization, avalancheConsensus]

end ContractScan.Rule.Overlay
