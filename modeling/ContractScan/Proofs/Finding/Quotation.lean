import ContractScan.Proofs.Finding.Finalize
import ContractScan.Proofs.Finding.Scan

/-!
# Findings without their quotations

The snippet of a finding quotes the source. Neither what is kept of a list of findings, nor their
order, nor the summary depends on it.
-/

namespace ContractScan

namespace Finding

/-- The finding without what it quotes of the source. -/
def unquoted (f : Finding) : Finding := { f with snippet := "" }

theorem key_unquoted (f : Finding) : f.unquoted.key = f.key := rfl

theorem severity_unquoted (f : Finding) : f.unquoted.severity = f.severity := rfl

/-- Quotations may be left out before or after the first finding of each key is taken. -/
theorem map_unquoted_distinct (seen : List Key) (l : List Finding) :
    (distinct seen l).map unquoted = distinct seen (l.map unquoted) := by
  induction l generalizing seen with
  | nil => rfl
  | cons f l ih =>
    simp only [List.map_cons, distinct, List.contains_eq_mem, decide_eq_true_eq]
    by_cases old : f.key ∈ seen
    · have old' : f.unquoted.key ∈ seen := old
      rw [if_pos old, if_pos old', ih]
    · have new' : f.unquoted.key ∉ seen := old
      rw [if_neg old, if_neg new', List.map_cons, ih, key_unquoted]

/-- Quotations may be left out before or after finalizing. -/
theorem map_unquoted_finalize (raw : List Finding) :
    (finalize raw).map unquoted = finalize (raw.map unquoted) := by
  rw [finalize_eq, finalize_eq, Severity.map_grouped severity severity unquoted severity_unquoted,
    map_unquoted_distinct]

end Finding

/-- A summary depends on the severities only. -/
theorem Summary.ofFindings_congr {fs gs : List Finding}
    (h : fs.map Finding.severity = gs.map Finding.severity) : ofFindings fs = ofFindings gs := by
  have bySeverity (fs : List Finding) : ofFindings fs =
      { total := (fs.map Finding.severity).length
        counts := (fs.map Finding.severity).foldl (fun counts s ↦ tally s counts) []
        risk := (fs.map Finding.severity).foldl graver .info
        score := 100 - (fs.map Finding.severity).foldl (fun n s ↦ n + s.penalty) 0 } := by
    simp only [ofFindings, penalty, List.length_map, List.foldl_map]
  rw [bySeverity, bySeverity, h]

/-- Without the quotations a scan is told by the rules and their lines. -/
theorem map_unquoted_scan (rules : List Rule) (source : String) :
    (scan rules source).map Finding.unquoted =
      rules.flatMap fun r ↦ (r.linesIn source).map fun line ↦ r.finding line "" := by
  rw [scan_eq, List.map_flatMap]
  simp only [List.map_map]
  rfl

end ContractScan
