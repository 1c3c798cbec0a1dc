import ContractScan.Text.Numeral

/-!
# JSON values

Values keep the order of their members. A number is kept as it was written, since an integer and
a fraction of the same value are read differently. What a reader may pass over but cannot take in
has a value of its own.
-/

namespace ContractScan

namespace Json

/-- A number as written: `mantissa` times ten to the power `exponent`. -/
structure Number where
  negative : Bool := false
  mantissa : Nat
  exponent : Int := 0
  /-- Written without fraction and exponent. -/
  integral : Bool := true
deriving DecidableEq, Repr, Inhabited

namespace Number

/-- The integer the number is written as; negative zero is not one. -/
def toInt? (n : Number) : Option Int :=
  if !n.integral || (n.negative && n.mantissa == 0) then none
  else some (if n.negative then -(n.mantissa : Int) else n.mantissa)

/-- The least magnitude that no longer rounds to a finite 64-bit floating point number. -/
def tooLarge : Nat := 1 <<< 1024 - 1 <<< 970

/-- The number rounds to a finite 64-bit floating point number. Ten is more than two to the third,
so that most small numbers need not be compared in full. -/
def finite (n : Number) : Bool :=
  let below := (-n.exponent).toNat
  n.mantissa = 0 ||
    if 0 < n.exponent then
      n.exponent ≤ 309 && n.mantissa * Nat.pow 10 n.exponent.toNat < tooLarge
    else n.mantissa.log2 < 1023 + 3 * below || n.mantissa < tooLarge * Nat.pow 10 below

end Number

/-- The integer fits 64 bits with its sign. -/
def fitsWord (i : Int) : Bool := Int64.minValue.toInt ≤ i && i ≤ Int64.maxValue.toInt

end Json

/-- A JSON value. -/
inductive Json
  | null
  | bool (b : Bool)
  | number (n : Json.Number)
  | text (s : String)
  | array (items : List Json)
  | object (members : List (String × Json))
  /-- A value that can only be passed over: a number beyond all bounds, or a text or member name
  with half a surrogate pair. -/
  | unreadable
deriving Repr, Inhabited

namespace Json

/-- A natural number as a value. -/
def nat (n : Nat) : Json := .number { mantissa := n }

/-- An integer as a value. -/
def int (i : Int) : Json := .number { negative := decide (i < 0), mantissa := i.natAbs }

/-- A text that may be missing. -/
def optText : Option String → Json
  | none => .null
  | some s => .text s

/-- A number that may be missing. -/
def optNat : Option Nat → Json
  | none => .null
  | some n => nat n

/-- The text that the value is. -/
def text? : Json → Option String
  | .text s => some s
  | _ => none

/-- The truth value that the value is. -/
def bool? : Json → Option Bool
  | .bool b => some b
  | _ => none

/-- The natural number that the value is. -/
def nat? : Json → Option Nat
  | .number n => n.toInt?.bind fun i ↦ if i < 0 then none else some i.toNat
  | _ => none

/-- The natural number that the value is, if it fits 64 bits. -/
def word? (j : Json) : Option Nat := j.nat?.filter fun n ↦ decide (n < UInt64.size)

/-- The integer that the value is, if it fits 64 bits with its sign. -/
def signedWord? : Json → Option Int
  | .number n => n.toInt?.filter fitsWord
  | _ => none

/-- The items that the value lists. -/
def items? : Json → Option (List Json)
  | .array xs => some xs
  | _ => none

/-- The members that the value has. -/
def members? : Json → Option (List (String × Json))
  | .object ms => some ms
  | _ => none

/-- The member of the given name. -/
def get? (j : Json) (name : String) : Option Json := j.members?.bind (List.lookup name ·)

/-- The members with a further one: a name that is there already keeps its place and takes the
new value. -/
def putMember (name : String) (v : Json) : List (String × Json) → List (String × Json)
  | [] => [(name, v)]
  | m :: ms => if m.1 == name then (name, v) :: ms else m :: putMember name v ms

mutual

/-- The value as it is taken in whole: every part is readable, fewer than `room` levels are
nested, and of several members of one name the last one counts, in the place of the first. -/
def settle? (room : Nat) : Json → Option Json
  | .array xs => if room ≤ 1 then none else (settleItems? (room - 1) xs).map .array
  | .object ms => if room ≤ 1 then none else (settleMembers? (room - 1) ms []).map .object
  | .unreadable => none
  | j => some j

/-- The items, each taken in whole. -/
def settleItems? (room : Nat) : List Json → Option (List Json)
  | [] => some []
  | x :: xs => do
    let y ← settle? room x
    let ys ← settleItems? room xs
    return y :: ys

/-- The members, each taken in whole, after those already there. -/
def settleMembers? (room : Nat) :
    List (String × Json) → List (String × Json) → Option (List (String × Json))
  | [], done => some done
  | (name, x) :: ms, done => do
    let y ← settle? room x
    settleMembers? room ms (putMember name y done)

end

/-- How many levels a value that is taken in whole must stay below. -/
def maxDepth : Nat := 128

end Json

end ContractScan
