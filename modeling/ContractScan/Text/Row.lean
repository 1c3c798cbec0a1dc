import ContractScan.Text.Numeral

/-!
# Rows of tables

Large tables of characters are written as rows of words. A word is a row of code points in
hexadecimal, joined by plus signs, or a hyphen for none.
-/

namespace ContractScan.Text

/-- The code points of a word. -/
def wordPoints (w : List Char) : List Nat :=
  if w = ['-'] then [] else (w.splitOn '+').map (numeral 16)

/-- The words of a row. -/
def rowPoints (row : String) : List (List Nat) := (row.toList.splitOn ' ').map wordPoints

end ContractScan.Text
