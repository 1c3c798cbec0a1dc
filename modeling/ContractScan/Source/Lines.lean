import ContractScan.Text.Lines
import ContractScan.Text.Utf8

/-!
# Lines of a source

A source is cut at its newlines. The table of lines finds the line of a byte offset and cuts out
the lines around it.
-/

namespace ContractScan.Source

/-- The lines of a source and the byte offsets at which they start. -/
structure Lines where
  texts : Array (List Char)
  starts : Array Nat
deriving DecidableEq, Repr

namespace Lines

/-- The byte offsets at which the lines start, of which the first starts at `pos`. -/
def startsFrom (pos : Nat) : List (List Char) → List Nat
  | [] => []
  | l :: ls => pos :: startsFrom (pos + Text.size l + 1) ls

/-- The table of lines of a source. -/
def ofSource (s : List Char) : Lines :=
  let parts := s.splitOn '\n'
  { texts := (parts.map Text.chomp).toArray, starts := (startsFrom 0 parts).toArray }

/-- How many of the `n` numbers from `lo` on satisfy `p`, where those that do come first. -/
def countFirst (p : Nat → Bool) (lo n : Nat) : Nat :=
  if n = 0 then 0
  else
    let half := n / 2
    if p (lo + half) then half + 1 + countFirst p (lo + half + 1) (n - half - 1)
    else countFirst p lo half
termination_by n

theorem countFirst_le (p : Nat → Bool) (lo n : Nat) : countFirst p lo n ≤ n := by
  fun_induction countFirst p lo n <;> omega

/-- The numbers that satisfy `p` are those below the count. -/
theorem lt_countFirst_iff (p : Nat → Bool) (lo n i : Nat)
    (first : ∀ i j, i ≤ j → j < lo + n → p j = true → p i = true) (h : i < n) :
    i < countFirst p lo n ↔ p (lo + i) = true := by
  fun_induction countFirst p lo n generalizing i with
  | case1 lo => omega
  | case2 lo n ne half holds ih =>
    by_cases le : i ≤ half
    · exact ⟨fun _ ↦ first _ _ (by omega) (by omega) holds, fun _ ↦ by omega⟩
    · have rest := ih (i - half - 1) (fun i j le lt ↦ first i j le (by omega)) (by omega)
      rw [show lo + half + 1 + (i - half - 1) = lo + i by omega] at rest
      rw [← rest]
      omega
  | case3 lo n ne half fails ih =>
    by_cases lt : i < half
    · exact ih i (fun i j le lt ↦ first i j le (by omega)) lt
    · have := countFirst_le p lo half
      exact ⟨fun _ ↦ by omega, fun e ↦ absurd (first _ _ (by omega) (by omega) e) fails⟩

/-- The number of the line that holds the byte offset, counted from one: as many lines start at
or before it. -/
def lineAt (ls : Lines) (offset : Nat) : Nat :=
  countFirst (fun i ↦ decide (ls.starts.getD i 0 ≤ offset)) 0 ls.starts.size

/-- Lines shown on each side of the one in question. -/
def context : Nat := 2

/-- The line of the given number with the lines around it; the line itself is marked. -/
def snippet (ls : Lines) (line : Nat) : List Char :=
  let target := line - 1
  let first := target - context
  let shown := (ls.texts.extract first (target + context + 1)).toList
  let marked := shown.mapIdx fun i l ↦ if first + i = target then ">>> ".toList ++ l else l
  ['\n'].intercalate marked

/-- The snippets of all lines, each worked out when it is first asked for. -/
def snippets (ls : Lines) : Array (Thunk String) :=
  Array.ofFn fun i : Fin ls.texts.size ↦
    Thunk.mk fun _ ↦ String.ofList (ls.snippet (i + 1))

end Lines

end ContractScan.Source
