import ContractScan.Text.CombiningClass
import ContractScan.Text.Composition

/-!
# Composed form

Texts that look alike because marks are written apart or together, or in another order, have one
composed form: everything is taken apart, marks are put into order, and what can be composed is.
Characters that are not composed of others but stand for them must have been replaced before.
-/

namespace ContractScan.Text

/-- How many times a character can be taken apart, at the most. -/
def maxParts : Nat := 4

/-- The character taken apart. -/
def apart : Nat → Char → List Char
  | 0, c => [c]
  | fuel + 1, c =>
    match parts? c with
    | some (a, b) => apart fuel a ++ [b]
    | none => [c]

/-- A character of a text with its class and the number of its block. A block is a character of
class zero with the marks behind it. -/
structure Placed where
  char : Char
  rank : Nat
  block : Nat
deriving DecidableEq, Repr

namespace Placed

/-- The characters of a text behind the block of the given number. -/
def row (block : Nat) : List Char → List Placed
  | [] => []
  | c :: s =>
    let rank := combiningClass c
    let block := if rank = 0 then block + 1 else block
    ⟨c, rank, block⟩ :: row block s

/-- The one may stand before the other: in an earlier block, or in the same one with no higher
class. -/
def mayPrecede (x y : Placed) : Bool :=
  x.block < y.block || (x.block = y.block && x.rank ≤ y.rank)

end Placed

/-- The text with each row of marks in the order of their classes. -/
def ordered (s : List Char) : List Char :=
  ((Placed.row 0 s).mergeSort Placed.mayPrecede).map Placed.char

/-- A text being composed: what is finished, last character first; the character that others are
still composed with; and the marks after it, last one first. -/
structure Composing where
  finished : List Char := []
  open? : Option Char := none
  marks : List Char := []

namespace Composing

/-- The text so far, last character first. -/
def all (s : Composing) : List Char := s.marks ++ (s.open?.toList ++ s.finished)

/-- A mark of the same or a higher class stands between the open character and the next one. -/
def blocked (s : Composing) (c : Char) : Bool :=
  s.marks.head?.any fun m ↦ combiningClass c ≤ combiningClass m

/-- The text with one more character. -/
def add (s : Composing) (c : Char) : Composing :=
  match s.open?.bind fun o ↦ if s.blocked c then none else compose? o c with
  | some whole => { s with open? := some whole }
  | none =>
    if combiningClass c = 0 then ⟨s.all, some c, []⟩
    else if s.open?.isSome then { s with marks := c :: s.marks }
    else { s with finished := c :: s.finished }

end Composing

/-- The text in composed form. -/
def composed (s : List Char) : List Char :=
  ((ordered (s.flatMap (apart maxParts))).foldl Composing.add {}).all.reverse

end ContractScan.Text
