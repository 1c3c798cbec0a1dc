import ContractScan.Json.Parser

/-!
# The grammar of JSON text

Which texts a value may be written as: with white space between any two tokens, with a character
of a text in its place or escaped in any way, and with a number in any form that keeps its bounds.
The names of members may be repeated. `Json.readable` are the values that are written by the
grammar at all, and `Json.depth` counts the levels that are nested in them.
-/

namespace ContractScan.Json

mutual

/-- No part of the value is unreadable. -/
def readable : Json → Bool
  | .array xs => readableItems xs
  | .object ms => readableMembers ms
  | .unreadable => false
  | _ => true

/-- No part of the items is unreadable. -/
def readableItems : List Json → Bool
  | [] => true
  | x :: xs => readable x && readableItems xs

/-- No part of the members is unreadable. -/
def readableMembers : List (String × Json) → Bool
  | [] => true
  | (_, x) :: ms => readable x && readableMembers ms

end

mutual

/-- How many levels are nested in the value. -/
def depth : Json → Nat
  | .array xs => depthItems xs + 1
  | .object ms => depthMembers ms + 1
  | _ => 0

/-- How many levels are nested in the items. -/
def depthItems : List Json → Nat
  | [] => 0
  | x :: xs => max (depth x) (depthItems xs)

/-- How many levels are nested in the members. -/
def depthMembers : List (String × Json) → Nat
  | [] => 0
  | (_, x) :: ms => max (depth x) (depthMembers ms)

end

namespace Grammar

/-- A white space character of the format. -/
def Space (c : Char) : Prop := c = ' ' ∨ c = '\n' ∨ c = '\t' ∨ c = '\r'

instance (c : Char) : Decidable (Space c) := inferInstanceAs (Decidable (_ ∨ _))

/-- Nothing but white space of the format. -/
def Blank (s : List Char) : Prop := ∀ c ∈ s, Space c

/-- Characters, and what stands for them between quotes. -/
inductive Quoted : List Char → List Char → Prop
  | nil : Quoted [] []
  | plain {c : Char} {cs s : List Char} (printed : 0x20 ≤ c.toNat) (mark : c ≠ '"')
      (escape : c ≠ '\\') (rest : Quoted cs s) : Quoted (c :: cs) (c :: s)
  | short {c e : Char} {cs s : List Char} (letter : Parser.shortEscape? e = some c)
      (rest : Quoted cs s) : Quoted (c :: cs) ('\\' :: e :: s)
  | unit {c a₁ a₂ a₃ a₄ : Char} {cs s : List Char}
      (unit : Parser.unit? a₁ a₂ a₃ a₄ = some c.toNat) (rest : Quoted cs s) :
      Quoted (c :: cs) ('\\' :: 'u' :: a₁ :: a₂ :: a₃ :: a₄ :: s)
  /-- A surrogate pair holds what exceeds 16 bits, the upper ten bits of it before the lower. -/
  | pair {c a₁ a₂ a₃ a₄ b₁ b₂ b₃ b₄ : Char} {high low : Nat} {cs s : List Char}
      (upper : Parser.unit? a₁ a₂ a₃ a₄ = some (0xd800 + high)) (high_lt : high < 0x400)
      (lower : Parser.unit? b₁ b₂ b₃ b₄ = some (0xdc00 + low)) (low_lt : low < 0x400)
      (both : c.toNat = 0x10000 + high * 0x400 + low) (rest : Quoted cs s) :
      Quoted (c :: cs)
        ('\\' :: 'u' :: a₁ :: a₂ :: a₃ :: a₄ :: '\\' :: 'u' :: b₁ :: b₂ :: b₃ :: b₄ :: s)

/-- A row of at least one digit. -/
structure Digits (ds : List Char) : Prop where
  ne : ds ≠ []
  all : ∀ c ∈ ds, c.isDigit = true

/-- A row of digits with no zero in front of another digit. -/
structure Whole (ds : List Char) : Prop extends Digits ds where
  alone : ∀ rest, ds = '0' :: rest → rest = []

/-- The digits after the point of a number, and how they are written. -/
inductive Fraction : List Char → List Char → Prop
  | none : Fraction [] []
  | some {ds : List Char} (digits : Digits ds) : Fraction ds ('.' :: ds)

/-- The exponent of a number, whether it is written, and how it is. -/
inductive Exponent : Int → Bool → List Char → Prop
  | none : Exponent 0 false []
  | bare {e : Char} {ds : List Char} (mark : e = 'e' ∨ e = 'E') (digits : Digits ds) :
      Exponent (Text.numeral 10 ds) true (e :: ds)
  | plus {e : Char} {ds : List Char} (mark : e = 'e' ∨ e = 'E') (digits : Digits ds) :
      Exponent (Text.numeral 10 ds) true (e :: '+' :: ds)
  | minus {e : Char} {ds : List Char} (mark : e = 'e' ∨ e = 'E') (digits : Digits ds) :
      Exponent (-(Text.numeral 10 ds : Int)) true (e :: '-' :: ds)

/-- A number, and how it is written after its sign. -/
inductive Magnitude (negative : Bool) : Number → List Char → Prop
  | intro {ws fs f x : List Char} {e : Int} {scaled : Bool} (whole : Whole ws)
      (fraction : Fraction fs f) (exponent : Exponent e scaled x)
      (bounds : inBounds ws fs e = true) :
      Magnitude negative
        { negative, mantissa := Text.numeral 10 (ws ++ fs), exponent := e - fs.length,
          integral := fs.isEmpty && !scaled }
        (ws ++ f ++ x)

mutual

/-- A value, and a text that stands for it. -/
inductive Value : Json → List Char → Prop
  | null : Value .null ['n', 'u', 'l', 'l']
  | yes : Value (.bool true) ['t', 'r', 'u', 'e']
  | no : Value (.bool false) ['f', 'a', 'l', 's', 'e']
  | number {n : Number} {s : List Char} (magnitude : Magnitude false n s) : Value (.number n) s
  | negative {n : Number} {s : List Char} (magnitude : Magnitude true n s) :
      Value (.number n) ('-' :: s)
  | text {t : String} {s : List Char} (quoted : Quoted t.toList s) :
      Value (.text t) ('"' :: s ++ ['"'])
  | noItems {w : List Char} (blank : Blank w) : Value (.array []) ('[' :: w ++ [']'])
  | array {xs : List Json} {s : List Char} (items : Elements xs s) :
      Value (.array xs) ('[' :: s ++ [']'])
  | noMembers {w : List Char} (blank : Blank w) : Value (.object []) ('{' :: w ++ ['}'])
  | object {ms : List (String × Json)} {s : List Char} (members : Members ms s) :
      Value (.object ms) ('{' :: s ++ ['}'])

/-- A value, and a text that stands for it, with white space around it. -/
inductive Element : Json → List Char → Prop
  | intro {j : Json} {w s w' : List Char} (before : Blank w) (value : Value j s)
      (after : Blank w') : Element j (w ++ s ++ w')

/-- At least one item, and what stands between the brackets of an array. -/
inductive Elements : List Json → List Char → Prop
  | last {x : Json} {s : List Char} (item : Element x s) : Elements [x] s
  | next {x : Json} {xs : List Json} {s t : List Char} (item : Element x s)
      (rest : Elements xs t) : Elements (x :: xs) (s ++ ',' :: t)

/-- A member, and a text that stands for it. -/
inductive Member : String × Json → List Char → Prop
  | intro {name : String} {x : Json} {w q w' s : List Char} (before : Blank w)
      (quoted : Quoted name.toList q) (after : Blank w') (value : Element x s) :
      Member (name, x) (w ++ '"' :: q ++ '"' :: w' ++ ':' :: s)

/-- At least one member, and what stands between the braces of an object. -/
inductive Members : List (String × Json) → List Char → Prop
  | last {m : String × Json} {s : List Char} (member : Member m s) : Members [m] s
  | next {m : String × Json} {ms : List (String × Json)} {s t : List Char} (member : Member m s)
      (rest : Members ms t) : Members (m :: ms) (s ++ ',' :: t)

end

end Grammar

end ContractScan.Json
