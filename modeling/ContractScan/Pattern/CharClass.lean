import ContractScan.Text.Blank
import ContractScan.Text.LetterCase
import ContractScan.Text.Word

/-!
# Classes of characters

The one-character part of a pattern. Letters are always compared without regard to case; a class
given by exclusion names only characters that have no case.
-/

namespace ContractScan

/-- A class of characters, as patterns name it. -/
inductive CharClass
  /-- The given character, in either case. -/
  | like (c : Char)
  /-- White space. -/
  | blank
  /-- What identifiers are made of. -/
  | word
  /-- A decimal digit. -/
  | digit
  /-- A character from `lo` to `hi`, both included. -/
  | within (lo hi : Char)
  /-- Every character but the listed ones. -/
  | except (cs : List Char)
deriving DecidableEq, Repr

namespace CharClass

/-- Any character. -/
def anything : CharClass := .except []

/-- Any character of the line. -/
def inLine : CharClass := .except ['\n']

/-- Whether a character belongs to the class. -/
def holds : CharClass → Char → Bool
  | .like c, x => Text.foldCase x == Text.foldCase c
  | .blank, x => Text.isBlank x
  | .word, x => Text.isWord x
  | .digit, x => Text.isDigit x
  | .within lo hi, x => decide (lo ≤ x) && decide (x ≤ hi)
  | .except cs, x => !cs.contains x

end CharClass

end ContractScan
