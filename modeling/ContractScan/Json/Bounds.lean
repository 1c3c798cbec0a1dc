import ContractScan.Json.Basic

/-!
# Bounds of numbers

A number that is taken in has to become a finite 64-bit floating point number. It does so in two
steps: as many of its first digits as fit 64 bits are rounded by themselves, and then multiplied
by a rounded power of ten. So the bound is not quite the one of the number as written.
-/

namespace ContractScan.Json

/-- The digits taken onto a number as long as that fits 64 bits, and the digits left over. -/
def absorb (n : Nat) : List Char → Nat × List Char
  | [] => (n, [])
  | d :: ds =>
    let next := n * 10 + Text.digitValue 10 d
    if next < UInt64.size then absorb next ds else (n, d :: ds)

/-- The nearest number of 53 binary digits and zeros after them, of two the one whose last digit
is even. -/
def rounded (n : Nat) : Nat :=
  let low := n.log2 + 1 - 53
  let unit := 1 <<< low
  let front := n / unit
  let back := 2 * (n % unit)
  if unit < back ∨ (unit = back ∧ front % 2 = 1) then (front + 1) * unit else front * unit

/-- The greatest power of ten that a number is multiplied by. -/
def maxScale : Nat := 308

/-- The number with the given digits before and after its point, times ten to the power `exponent`,
is within bounds. -/
def inBounds (whole fraction : List Char) (exponent : Int) : Bool :=
  let (n, left) := absorb 0 whole
  let (n, rest) := absorb n fraction
  let scale := exponent + left.length + rest.length - fraction.length
  n = 0 || scale < 0 ||
    (scale ≤ maxScale && rounded n * rounded (Nat.pow 10 scale.toNat) < Number.tooLarge)

end ContractScan.Json
