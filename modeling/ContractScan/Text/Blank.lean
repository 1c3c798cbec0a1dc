import ContractScan.Text.Ranges

/-!
# White space

The characters with the property White_Space, and the three things done with them: a text is
blank when it has no other character, its ends are trimmed, and its rest after leading white
space is taken.
-/

namespace ContractScan.Text

/-- The characters with the property White_Space. -/
def blankRanges : List (Nat × Nat) := [
  (0x9, 0xd), (0x20, 0x20), (0x85, 0x85), (0xa0, 0xa0), (0x1680, 0x1680), (0x2000, 0x200a),
  (0x2028, 0x2029), (0x202f, 0x202f), (0x205f, 0x205f), (0x3000, 0x3000)]

/-- A white space character. -/
def isBlank (c : Char) : Bool :=
  inRanges blankRanges c

/-- Nothing but white space. -/
def allBlank (s : String) : Bool :=
  s.toList.all isBlank

/-- The characters without white space at either end. -/
def trimmed (cs : List Char) : List Char :=
  ((cs.dropWhile isBlank).reverse.dropWhile isBlank).reverse

/-- The text without white space at either end. -/
def trim (s : String) : String :=
  String.ofList (trimmed s.toList)

/-- The text itself unless it is blank. -/
def nonBlank? (s : String) : Option String :=
  if allBlank s then none else some s

end ContractScan.Text
