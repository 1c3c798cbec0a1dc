/-!
# Search budgets

A search that goes back to earlier choices is limited in two ways: it may go back only so often,
and only so many choices may be open at one time. A choice has two sides; the second stays open
while the first is tried, and going over to it is one step back.
-/

namespace ContractScan

/-- What a search may still spend. -/
structure Budget where
  /-- How often it may go back to an open choice. -/
  returns : Nat
  /-- How many more choices may be open. -/
  room : Nat
deriving DecidableEq, Repr

/-- The outcome of trying a pattern at one place. -/
inductive Attempt
  /-- A match that ends at a place. -/
  | found (place : Nat)
  /-- No match, with the steps back that remain. -/
  | failed (returns : Nat)
  /-- The budget was spent before it was known. -/
  | spent
deriving DecidableEq, Repr

/-- A failed attempt goes back to what is next, if it still may. -/
@[macro_inline] def Attempt.orTry (a : Attempt) (next : Nat → Attempt) : Attempt :=
  match a with
  | .failed 0 => .spent
  | .failed (returns + 1) => next returns
  | a => a

namespace Budget

/-- Tries one side of a choice and, if that fails, the other. -/
@[macro_inline] def choose (b : Budget) (one other : Budget → Attempt) : Attempt :=
  match b.room with
  | 0 => .spent
  | room + 1 => (one ⟨b.returns, room⟩).orTry fun returns ↦ other ⟨returns, room + 1⟩

/-- No match on this side. -/
@[inline] def fail (b : Budget) : Attempt := .failed b.returns

end Budget

end ContractScan
