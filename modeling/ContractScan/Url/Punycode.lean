/-!
# Punycode

The encoding of labels of internationalised domain names in letters, digits and hyphens. The
characters beyond ASCII are inserted in the order of their code points; each insertion is written
as a number in a mixed base whose thresholds follow a bias.
-/

namespace ContractScan.Url.Punycode

/-- The digit of value `d`, which is below 36. -/
def digit (d : Nat) : Char :=
  if d < 26 then Char.ofNat ('a'.toNat + d) else Char.ofNat ('0'.toNat + (d - 26))

/-- The value of a digit. -/
def value? (c : Char) : Option Nat :=
  if 'a' ≤ c ∧ c ≤ 'z' then some (c.toNat - 'a'.toNat)
  else if 'A' ≤ c ∧ c ≤ 'Z' then some (c.toNat - 'A'.toNat)
  else if '0' ≤ c ∧ c ≤ '9' then some (c.toNat - '0'.toNat + 26)
  else none

/-- The threshold at place `k`, from 1 to 26. -/
def threshold (k bias : Nat) : Nat := max 1 (min 26 (k - bias))

theorem one_le_threshold (k bias : Nat) : 1 ≤ threshold k bias := by
  unfold threshold; omega

theorem threshold_le (k bias : Nat) : threshold k bias ≤ 26 := by
  unfold threshold; omega

/-- Divides `delta` until it is small, with 36 for each time. -/
def damp (delta : Nat) : Nat × Nat :=
  if 455 < delta then
    let (d, k) := damp (delta / 35)
    (d, k + 36)
  else (delta, 0)

/-- The bias after an insertion at distance `delta`, with `count` characters then present. -/
def adapt (delta count : Nat) (first : Bool) : Nat :=
  let scaled := if first then delta / 700 else delta / 2
  let (d, k) := damp (scaled + scaled / count)
  k + 36 * d / (d + 38)

/-- The digits of the number `q` from place `k` on. -/
def digits (bias k q : Nat) : List Char :=
  let t := threshold k bias
  if q < t then [digit q]
  else digit (t + (q - t) % (36 - t)) :: digits bias (k + 36) ((q - t) / (36 - t))
termination_by q
decreasing_by
  have h₁ := one_le_threshold k bias
  have h₂ := threshold_le k bias
  exact Nat.lt_of_le_of_lt (Nat.div_le_self _ _) (by omega)

/-- The state of the encoder: the output, the distance since the last insertion, the bias, how
many characters are present, and whether none has been inserted yet. -/
structure Encoder where
  out : List Char
  delta : Nat
  bias : Nat
  count : Nat
  first : Bool

namespace Encoder

/-- Passes over a character while the code point `n` is inserted. -/
def visit (n : Nat) (e : Encoder) (c : Char) : Encoder :=
  if c.toNat < n then { e with delta := e.delta + 1 }
  else if c.toNat = n then
    { out := e.out ++ digits e.bias 36 e.delta
      delta := 0
      bias := adapt e.delta (e.count + 1) e.first
      count := e.count + 1
      first := false }
  else e

/-- Inserts the code points, which ascend from `least` on, wherever they stand in the label. -/
def insertAll (label : List Char) : Nat → List Nat → Encoder → Encoder
  | _, [], e => e
  | least, n :: ns, e =>
    let e := { e with delta := e.delta + (n - least) * (e.count + 1) }
    let e := label.foldl (visit n) e
    insertAll label (n + 1) ns { e with delta := e.delta + 1 }

end Encoder

/-- A character of the ASCII block. -/
def isBasic (c : Char) : Bool := c.toNat < 128

/-- The label in letters, digits and hyphens. -/
def encode (label : List Char) : List Char :=
  let basic := label.filter isBasic
  let others := ((label.filter fun c ↦ !isBasic c).map Char.toNat).mergeSort.eraseDups
  let front := if basic.isEmpty then [] else basic ++ ['-']
  (Encoder.insertAll label 128 others ⟨front, 0, 72, basic.length, true⟩).out

/-- What numbers and weights must stay below. -/
def bound : Nat := UInt32.size

/-- The number at the beginning of the digits, read from place `k` on with weight `w` and added
to `i`, and the digits after it. -/
def number? (bias k w i : Nat) : List Char → Option (Nat × List Char)
  | [] => none
  | c :: s =>
    match value? c with
    | none => none
    | some d =>
      let t := threshold k bias
      let j := i + d * w
      let w := w * (36 - t)
      if bound ≤ j then none
      else if d < t then some (j, s)
      else if bound ≤ w then none
      else number? bias (k + 36) w j s

/-- The character of a code point. -/
def scalar? (n : Nat) : Option Char := if n.isValidChar then some (Char.ofNat n) else none

/-- Makes the insertions that the digits tell, at most `fuel` many. -/
def insertions (fuel : Nat) (label : List Char) (n i bias : Nat) (first : Bool)
    (s : List Char) : Option (List Char) :=
  match fuel, s with
  | _, [] => some label
  | 0, _ => none
  | fuel + 1, s => do
    let (j, s) ← number? bias 36 1 i s
    let count := label.length + 1
    let c ← scalar? (n + j / count)
    let place := j % count
    insertions fuel (label.take place ++ c :: label.drop place) (n + j / count) (place + 1)
      (adapt (j - i) count first) false s

/-- The label that the letters, digits and hyphens encode. -/
def decode? (s : List Char) : Option (List Char) :=
  let tail := (s.reverse.takeWhile (· ≠ '-')).reverse
  let front := s.take (s.length - tail.length - 1)
  let tail := if front.isEmpty then s else tail
  if front.all isBasic then insertions tail.length front 128 0 72 true tail else none

end ContractScan.Url.Punycode
