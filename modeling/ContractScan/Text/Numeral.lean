/-!
# Numerals

Digits in a base up to sixteen, and the numbers that rows of them stand for.
-/

namespace ContractScan.Text

/-- The value of a hexadecimal digit, in either case. -/
def hexDigit? (c : Char) : Option Nat :=
  if '0' ≤ c ∧ c ≤ '9' then some (c.toNat - '0'.toNat)
  else if 'a' ≤ c ∧ c ≤ 'f' then some (c.toNat - 'a'.toNat + 10)
  else if 'A' ≤ c ∧ c ≤ 'F' then some (c.toNat - 'A'.toNat + 10)
  else none

/-- The value of a digit in the given base. -/
def digit? (base : Nat) (c : Char) : Option Nat :=
  (hexDigit? c).filter fun d ↦ decide (d < base)

/-- Whether the character is a digit in the given base. -/
def isDigitIn (base : Nat) (c : Char) : Bool := (digit? base c).isSome

/-- The value of the character as a digit; what is no digit counts as zero. -/
def digitValue (base : Nat) (c : Char) : Nat := (digit? base c).getD 0

/-- Digits put together two by two, as digits in the square of the base, the lowest first. -/
def paired (base : Nat) : List Nat → List Nat
  | x :: y :: ds => (x + base * y) :: paired base ds
  | ds => ds

/-- The number with at most `n` digits, the lowest first. Digits are put together two by two, so
that most products are of small numbers. -/
def total : Nat → Nat → List Nat → Nat
  | _, _, [] => 0
  | _, _, [x] => x
  | 0, _, _ => 0
  | n + 1, base, ds => total n (base * base) (paired base ds)

/-- The number that a row of digits stands for; other characters count as zero. -/
def numeral (base : Nat) (ds : List Char) : Nat :=
  total ds.length base (ds.reverse.map (digitValue base))

theorem length_paired_lt (base x y : Nat) (ds : List Nat) :
    (paired base (x :: y :: ds)).length < (x :: y :: ds).length := by
  have le : ∀ ds, (paired base ds).length ≤ ds.length := by
    intro ds
    fun_induction paired base ds with
    | case1 x y ds ih => simp only [List.length_cons]; omega
    | case2 ds => exact Nat.le_refl _
  have := le ds
  simp only [paired, List.length_cons]
  omega

theorem foldr_paired (base : Nat) (ds : List Nat) :
    (paired base ds).foldr (fun d n ↦ d + base * base * n) 0 =
      ds.foldr (fun d n ↦ d + base * n) 0 := by
  fun_induction paired base ds with
  | case1 x y ds ih =>
    rw [List.foldr_cons, ih]
    simp only [List.foldr_cons, Nat.mul_add, Nat.mul_assoc, Nat.add_assoc]
  | case2 ds h =>
    match ds, h with
    | [], _ => rfl
    | [x], _ => simp
    | x :: y :: ds, h => exact absurd rfl (h x y ds)

theorem total_eq (n base : Nat) (ds : List Nat) (h : ds.length ≤ n) :
    total n base ds = ds.foldr (fun d n ↦ d + base * n) 0 := by
  induction n generalizing base ds with
  | zero =>
    match ds, h with
    | [], _ => rfl
  | succ n ih =>
    match ds, h with
    | [], _ => rfl
    | [x], _ => simp [total]
    | x :: y :: ds, h =>
      have := length_paired_lt base x y ds
      rw [total, ih, foldr_paired]
      · omega
      · simp
      · simp

/-- A numeral is read digit by digit. -/
theorem numeral_eq_foldl (base : Nat) (ds : List Char) :
    numeral base ds = ds.foldl (fun n c ↦ n * base + digitValue base c) 0 := by
  rw [numeral, total_eq _ _ _ (by simp), List.foldr_map, List.foldr_reverse]
  congr 1
  funext n c
  rw [Nat.add_comm, Nat.mul_comm]

/-- The number that the text stands for, if it is a row of at least one digit. -/
def numeral? (base : Nat) (ds : List Char) : Option Nat :=
  if ds.isEmpty || !ds.all (isDigitIn base) then none else some (numeral base ds)

/-- The hexadecimal digit of a number below sixteen. -/
def hexDigit (n : Nat) : Char :=
  if n < 10 then Char.ofNat ('0'.toNat + n) else Char.ofNat ('a'.toNat + (n - 10))

/-- The two lower-case hexadecimal digits of a byte. -/
def hexByte (b : Nat) : List Char := [hexDigit (b / 16 % 16), hexDigit (b % 16)]

end ContractScan.Text
