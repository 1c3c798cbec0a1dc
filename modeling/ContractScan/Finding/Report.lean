import ContractScan.Finding.Basic

/-!
# Reported findings

From the raw findings of a scan to the list that is reported: of findings that say the same about
the same line the first is kept, and the gravest come first. The summary counts and rates the
list.
-/

namespace ContractScan

namespace Finding

/-- How many characters of the description tell findings apart. -/
def keyLength : Nat := 50

/-- What tells findings apart: the line, the weakness and the beginning of the description. -/
abbrev Key := Option Nat × String × List Char

/-- The key of a finding. -/
def key (f : Finding) : Key := (f.line, f.weakness, f.description.toList.take keyLength)

/-- The findings whose keys are neither among `seen` nor borne by an earlier finding. -/
def distinct (seen : List Key) : List Finding → List Finding
  | [] => []
  | f :: fs =>
    let key := f.key
    if seen.contains key then distinct seen fs else f :: distinct (key :: seen) fs

/-- The findings to report: one for each key, the gravest first and otherwise in the order in
which they were found. -/
def finalize (raw : List Finding) : List Finding :=
  (distinct [] raw).mergeSort fun a b ↦ a.severity.rank ≤ b.severity.rank

/-- The findings at least as grave as the threshold. -/
def atLeast (threshold : Severity) (fs : List Finding) : List Finding :=
  fs.filter fun f ↦ f.severity.meets threshold

end Finding

/-- Counts and ratings of a list of findings. -/
structure Summary where
  total : Nat
  /-- How many findings there are of each severity that occurs, the gravest first. -/
  counts : List (Severity × Nat)
  /-- The gravest severity that occurs. -/
  risk : Severity
  /-- From 0 to 100, the higher the better. -/
  score : Nat
deriving DecidableEq, Repr

namespace Summary

/-- The graver of two severities. -/
def graver (a b : Severity) : Severity := if a.rank ≤ b.rank then a else b

/-- The counts with one finding of the severity added, kept in the order of gravity. -/
def tally (s : Severity) : List (Severity × Nat) → List (Severity × Nat)
  | [] => [(s, 1)]
  | (t, n) :: rest =>
    if s = t then (t, n + 1) :: rest
    else if s.rank < t.rank then (s, 1) :: (t, n) :: rest
    else (t, n) :: tally s rest

/-- What the findings together take off the score. -/
def penalty (fs : List Finding) : Nat := fs.foldl (fun n f ↦ n + f.severity.penalty) 0

/-- The summary of a list of findings; the risk of none is informational. -/
def ofFindings (fs : List Finding) : Summary where
  total := fs.length
  counts := fs.foldl (fun counts f ↦ tally f.severity counts) []
  risk := (fs.map Finding.severity).foldl graver .info
  score := 100 - penalty fs

/-- How many findings are of the severity. -/
def count (s : Summary) (v : Severity) : Nat := (s.counts.lookup v).getD 0

/-- Some finding is critical. -/
def hasCritical (s : Summary) : Bool := 0 < s.count .critical

end Summary

end ContractScan
