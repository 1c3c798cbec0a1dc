import ContractScan.Url.Percent

/-!
# Form encoding

Names and values of a query: blanks become plus signs, and all but letters, digits and four
marks are percent-encoded.
-/

namespace ContractScan.Url

/-- What stands for itself in a form. -/
def formPlain (c : Char) : Bool := c.isAlphanum || ['*', '-', '.', '_'].contains c

/-- A name or value in a form. -/
def formText (s : List Char) : List Char :=
  s.flatMap fun c ↦ if c = ' ' then ['+'] else percentEncodeChar (fun c ↦ !formPlain c) c

/-- The pairs of a form, joined by ampersands. -/
def formPairs (pairs : List (String × String)) : List Char :=
  ['&'].intercalate (pairs.map fun p ↦ formText p.1.toList ++ '=' :: formText p.2.toList)

end ContractScan.Url
