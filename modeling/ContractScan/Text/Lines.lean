/-!
# Lines

A line ends at a newline, and a carriage return before the newline belongs to the line end.
-/

namespace ContractScan.Text

/-- A line without the carriage return at its end, if it has one. -/
def chomp (l : List Char) : List Char :=
  if l.getLast? = some '\r' then l.dropLast else l

theorem chomp_prefix (l : List Char) : chomp l <+: l := by
  rw [chomp]
  split
  · exact List.dropLast_prefix l
  · exact List.prefix_refl l

/-- The lines of a text. What follows the last newline is a line as it stands, unless it is
empty. -/
def lines (s : List Char) : List (List Char) :=
  let parts := s.splitOn '\n'
  parts.dropLast.map chomp ++ (parts.getLast?.filter fun l ↦ !l.isEmpty).toList

end ContractScan.Text
