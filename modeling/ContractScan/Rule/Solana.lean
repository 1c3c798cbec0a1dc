import ContractScan.Rule.Basic

/-!
# Base rules for Solana

Weaknesses of Solana programs. These patterns stay on one line.
-/

namespace ContractScan.Rule.Solana

open Pattern CharClass

/-- The accounts of an instruction or of its context. -/
def accounts : Pattern τ := sequence [anyText "instruction" ["ctx"], text ".accounts."]

/-- The key of an account on a line that does not ask for its signature. -/
def missingSignerCheck : Rule where
  id := "missing_signer_check"
  set := .solana
  weakness := "Access Control"
  severity := .high
  pattern := sequence [
    accounts, notAhead (sequence [line, text ".is_signer"]), line, text ".key",
    notAhead (sequence [blanks, text "==", blanks, text "ctx.accounts.signer.key"])]
  description := "Missing signer verification"
  explanation := "Solana programs must verify that accounts are properly signed"
  recommendation := "Add is_signer checks for account validation"
  cwe := some "CWE-306"

/-- The owner of an account that is not compared. -/
def uncheckedAccountOwnership : Rule where
  id := "unchecked_account_ownership"
  set := .solana
  weakness := "Access Control"
  severity := .high
  pattern := sequence [
    accounts, line, text ".owner", notAhead (sequence [blanks, text "=="])]
  description := "Unchecked account ownership"
  explanation := "Account ownership should be verified to prevent unauthorized access"
  recommendation := "Verify account.owner == expected_program_id"
  cwe := some "CWE-284"

/-- Arithmetic that may not yield a value. -/
def integerOverflow : Rule where
  id := "integer_overflow_rust"
  set := .solana
  weakness := "Integer Overflow"
  severity := .medium
  pattern := sequence [
    anyText "checked_add" ["checked_sub", "checked_mul", "checked_div"], blanks, text "("]
  description := "Potential integer operation without overflow check"
  explanation := "Rust requires explicit overflow handling in financial operations"
  recommendation := "Use checked arithmetic operations"
  cwe := some "CWE-190"

/-- Reading data without checks. -/
def unsafeDeserialization : Rule where
  id := "unsafe_deserialization"
  set := .solana
  weakness := "Unsafe Deserialization"
  severity := .high
  pattern := anyText "try_from_slice_unchecked" ["from_bytes_unchecked"]
  description := "Unsafe deserialization"
  explanation := "Unchecked deserialization can lead to memory corruption"
  recommendation := "Use safe deserialization methods with proper validation"
  cwe := some "CWE-502"

/-- A new account on a line that speaks of rent. -/
def missingRentExemption : Rule where
  id := "missing_rent_exemption"
  set := .solana
  weakness := "Resource Management"
  severity := .medium
  pattern := sequence [text "AccountInfo", line, text "new", line, text "rent"]
  description := "Potential rent exemption issue"
  explanation := "Accounts should be rent-exempt to avoid being cleaned up"
  recommendation := "Ensure accounts have sufficient balance for rent exemption"

/-- Account data that is borrowed and asked whether it is empty. -/
def uninitializedAccount : Rule where
  id := "uninitialized_account"
  set := .solana
  weakness := "Initialization"
  severity := .high
  pattern := sequence [text ".data.borrow()", line, text "is_empty()"]
  description := "Uninitialized account access"
  explanation := "Accessing uninitialized accounts can lead to undefined behavior"
  recommendation := "Check account initialization before use"

/-- A program address that is looked up by seeds. -/
def missingBumpValidation : Rule where
  id := "missing_bump_validation"
  set := .solana
  weakness := "Validation"
  severity := .medium
  pattern := sequence [text "find_program_address", line, text "seeds"]
  description := "Potential missing bump seed validation"
  explanation := "PDA bump seeds should be validated to ensure canonical addresses"
  recommendation := "Validate bump seed in account derivation"

/-- The base rules for Solana. -/
def rules : List Rule := [
  missingSignerCheck, uncheckedAccountOwnership, integerOverflow, unsafeDeserialization,
  missingRentExemption, uninitializedAccount, missingBumpValidation]

end ContractScan.Rule.Solana
