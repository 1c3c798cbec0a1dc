import ContractScan.Rule.Basic

/-!
# Base rules for EVM chains

Weaknesses of Solidity sources. These patterns run over line ends.
-/

namespace ContractScan.Rule.Evm

open Pattern CharClass

/-- A call to another contract whose arguments speak of order and of balances or state. -/
def reentrancy : Rule where
  id := "reentrancy"
  set := .evm
  weakness := "Reentrancy"
  severity := .critical
  pattern := sequence [
    oneOf (sequence [text ".call", optional (text ".value"), blanks, text "("]) [
      sequence [text ".send", blanks, text "("],
      sequence [text ".transfer", blanks, text "("]],
    fewest (.except [';']), anyText "before" ["prior to"],
    fewest (.except [';']), anyText "balance" ["state"]]
  description := "Potential reentrancy vulnerability detected"
  explanation :=
    "Reentrancy occurs when a contract calls an external contract before updating its internal " ++
    "state. An attacker can exploit this by implementing a fallback function that calls back " ++
    "into the original contract, potentially draining funds or manipulating state."
  recommendation :=
    "Use the Checks-Effects-Interactions pattern: perform all checks first, update state " ++
    "variables second, and interact with external contracts last. Consider using OpenZeppelin's " ++
    "ReentrancyGuard modifier."
  cwe := some "CWE-841"
  swc := some "SWC-107"

/-- A call followed, within the block, by an assignment to a balance; call options in braces and
an indexed balance are allowed for. -/
def reentrancySimple : Rule where
  id := "reentrancy_simple"
  set := .evm
  weakness := "Reentrancy Simple"
  severity := .critical
  pattern := sequence [
    text ".call", optional (sequence [blanks, char '{', most (.except ['}']), char '}']), blanks,
    text "(", most (.except [')']), text ")", blanks, text ";",
    fewest (.except ['}']), anyText "balance" ["amount", "value"], most .word,
    optional (sequence [blanks, text "[", most (.except [']']), text "]"]), blanks,
    anyText "-=" ["+=", "="]]
  description := "External call before state update (potential reentrancy)"
  explanation :=
    "Making external calls before updating state variables can lead to reentrancy attacks where " ++
    "the called contract can call back and exploit the unchanged state."
  recommendation :=
    "Update state variables before making external calls. Use the Checks-Effects-Interactions " ++
    "pattern or reentrancy guards."
  cwe := some "CWE-841"
  swc := some "SWC-107"

/-- A call statement that is not followed by a check. -/
def uncheckedCall : Rule where
  id := "unchecked_call"
  set := .evm
  weakness := "Unchecked Call"
  severity := .high
  pattern := sequence [
    anyText ".call" [".send", ".transfer"], blanks, text "(", most (.except [')']), text ")",
    blanks, text ";", notAhead (sequence [blanks, anyText "require" ["assert", "if"]])]
  description := "Unchecked external call return value"
  explanation :=
    "External calls can fail silently. Not checking return values can lead to unexpected " ++
    "behavior where the contract assumes an operation succeeded when it actually failed."
  recommendation :=
    "Always check return values of external calls using require() statements or conditional " ++
    "logic. Consider using transfer() instead of send() for Ether transfers as it automatically " ++
    "reverts on failure."
  cwe := some "CWE-252"
  swc := some "SWC-104"

/-- The head of a public function that is neither read-only nor, before the next brace, guarded by
an owner modifier or a check of the sender. -/
def accessControl : Rule where
  id := "access_control"
  set := .evm
  weakness := "Access Control"
  severity := .high
  pattern := sequence [
    text "function", many .blank, many .word, blanks, text "(", most (.except [')']), text ")",
    blanks, anyText "public" ["external"],
    notAhead (sequence [many .blank, anyText "view" ["pure"]]),
    notAhead (sequence [most (.except ['{']), oneOf (text "onlyOwner") [
      sequence [text "require", blanks, text "(", most anything, text "msg.sender"],
      sequence [text "modifier", many .blank, many .word]]])]
  description := "Public/external function without access control"
  explanation :=
    "Functions that modify state or perform sensitive operations should have proper access " ++
    "controls to prevent unauthorized access by malicious actors."
  recommendation :=
    "Add appropriate access control modifiers (e.g., onlyOwner) or require statements to " ++
    "restrict function access to authorized users only."
  cwe := some "CWE-284"
  swc := some "SWC-105"

/-- A version pragma from before 0.8 with arithmetic before the next opening brace. -/
def integerOverflow : Rule where
  id := "integer_overflow"
  set := .evm
  weakness := "Integer Overflow"
  severity := .high
  pattern := sequence [
    text "pragma", many .blank, text "solidity", many .blank, most (.except [';']),
    one (.within '0' '6'), text ".", one (.within '0' '7'), text ".", many .digit,
    most (.except ['{']), anyText "++" ["--", "+=", "-=", "*=", "/="]]
  description := "Potential integer overflow in pre-0.8.0 Solidity"
  explanation :=
    "Solidity versions before 0.8.0 do not have built-in overflow protection. Arithmetic " ++
    "operations can wrap around, potentially leading to unexpected behavior or vulnerabilities."
  recommendation :=
    "Upgrade to Solidity 0.8.0+ for built-in overflow protection, or use SafeMath library for " ++
    "arithmetic operations in older versions."
  cwe := some "CWE-190"
  swc := some "SWC-101"

/-- A comparison of the transaction's origin. -/
def txOrigin : Rule where
  id := "tx_origin"
  set := .evm
  weakness := "Tx Origin"
  severity := .medium
  pattern := sequence [text "tx.origin", blanks, anyText "==" ["!="]]
  description := "Use of tx.origin for authorization"
  explanation :=
    "Using tx.origin for authorization is vulnerable to phishing attacks where a malicious " ++
    "contract can trick users into executing transactions that appear to come from the original " ++
    "sender."
  recommendation :=
    "Use msg.sender instead of tx.origin for authorization checks. tx.origin should only be " ++
    "used when you specifically need the original transaction sender."
  cwe := some "CWE-346"
  swc := some "SWC-115"

/-- A function or statement that the language has deprecated. -/
def deprecatedFunctions : Rule where
  id := "deprecated_functions"
  set := .evm
  weakness := "Deprecated Functions"
  severity := .low
  pattern := oneOf (sequence [text "suicide", blanks, text "("]) [
    sequence [text "throw", blanks, text ";"], text "block.blockhash",
    sequence [text "sha3", blanks, text "("]]
  description := "Use of deprecated Solidity functions"
  explanation :=
    "These functions are deprecated and may be removed in future Solidity versions, potentially " ++
    "breaking contract functionality."
  recommendation :=
    "Replace deprecated functions: use selfdestruct() instead of suicide(), revert() instead of " ++
    "throw, blockhash() instead of block.blockhash, and keccak256() instead of sha3()."
  swc := some "SWC-111"

/-- Block data in a statement that speaks of random numbers. -/
def weakRandomness : Rule where
  id := "weak_randomness"
  set := .evm
  weakness := "Weak Randomness"
  severity := .medium
  pattern := sequence [
    oneOf (text "block.timestamp") [text "block.number", text "block.difficulty",
      sequence [text "blockhash", blanks, text "(", most (.except [')']), text ")"]],
    fewest (.except [';']), anyText "random" ["rand", "seed"]]
  description := "Weak source of randomness"
  explanation :=
    "Using blockchain data for randomness is predictable and can be manipulated by miners or " ++
    "other actors, making it unsuitable for security-critical random number generation."
  recommendation :=
    "Use a commit-reveal scheme, oracle services like Chainlink VRF, or other secure randomness " ++
    "solutions instead of blockchain data for random number generation."
  cwe := some "CWE-338"
  swc := some "SWC-120"

/-- A storage pointer that is declared without a value. -/
def uninitializedStorage : Rule where
  id := "uninitialized_storage"
  set := .evm
  weakness := "Uninitialized Storage"
  severity := .medium
  pattern := sequence [
    anyText "struct" ["mapping"], fewest (.except [';']), text "storage",
    fewest (.except [';', '=']), text ";"]
  description := "Potential uninitialized storage pointer"
  explanation :=
    "Uninitialized storage pointers can point to unexpected storage slots, potentially " ++
    "corrupting contract state or allowing unauthorized access to sensitive data."
  recommendation :=
    "Always explicitly initialize storage pointers or use memory for local variables when " ++
    "appropriate."
  cwe := some "CWE-909"
  swc := some "SWC-109"

/-- A call that runs foreign code on the caller's storage. -/
def delegatecallDanger : Rule where
  id := "delegatecall_danger"
  set := .evm
  weakness := "Delegatecall Danger"
  severity := .high
  pattern := sequence [text "delegatecall", blanks, text "("]
  description := "Use of delegatecall"
  explanation :=
    "delegatecall executes code in the context of the calling contract, which can lead to " ++
    "unintended state changes or vulnerabilities if the called contract is malicious or " ++
    "contains bugs."
  recommendation :=
    "Carefully validate the target address and consider using regular call() instead. If " ++
    "delegatecall is necessary, implement strict access controls and code validation."
  cwe := some "CWE-470"
  swc := some "SWC-112"

/-- The base rules for EVM chains. -/
def rules : List Rule := [
  reentrancy, reentrancySimple, uncheckedCall, accessControl, integerOverflow, txOrigin,
  deprecatedFunctions, weakRandomness, uninitializedStorage, delegatecallDanger]

end ContractScan.Rule.Evm
