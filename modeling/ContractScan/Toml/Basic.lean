import ContractScan.Json.Basic

/-!
# TOML values

A document is a table. Tables remember how they came about, since that decides what may still be
added to them.
-/

namespace ContractScan

namespace Toml

/-- How a table came about. -/
inductive Origin
  /-- Under a header of its own. -/
  | header
  /-- As a part of the path in a header. -/
  | implied
  /-- As a part of a dotted key. -/
  | dotted
  /-- In braces. -/
  | inline
deriving DecidableEq, Repr

end Toml

/-- A value in a TOML document. -/
inductive Toml
  | text (s : String)
  | integer (i : Int)
  | float
  | bool (b : Bool)
  /-- A date, a time or both. -/
  | date
  | array (items : List Toml)
  | table (origin : Toml.Origin) (entries : List (String × Toml))
  /-- The tables under headers in double brackets, the last one first. -/
  | tables (items : List Toml)
deriving Repr, Inhabited

namespace Toml

mutual

/-- The value in JSON. Floats become numbers with a fraction, and dates objects with one member,
as neither can stand for anything in the records that are read from documents. -/
def toJson : Toml → Json
  | .text s => .text s
  | .integer i => .int i
  | .float => .number { mantissa := 0, integral := false }
  | .bool b => .bool b
  | .date => .object [("$date", .text "")]
  | .array xs => .array (itemsToJson xs)
  | .table _ ms => .object (entriesToJson ms)
  | .tables xs => .array (itemsToJson xs).reverse

/-- The items in JSON. -/
def itemsToJson : List Toml → List Json
  | [] => []
  | x :: xs => toJson x :: itemsToJson xs

/-- The entries in JSON. -/
def entriesToJson : List (String × Toml) → List (String × Json)
  | [] => []
  | (k, x) :: ms => (k, toJson x) :: entriesToJson ms

end

end Toml

end ContractScan
