import ContractScan.Finding.Scan
import ContractScan.Proofs.Pattern.Spans
import ContractScan.Proofs.Source.Lines

/-!
# Findings line by line

A finding of a scan is told by the rule and by the line on which the match starts. So a scan is,
rule after rule, the lines of the rule's matches (`scan_eq`), and these never go back
(`pairwise_linesIn`).
-/

namespace ContractScan

namespace Rule

theorem mem_inSets {r : Rule} {sets : List RuleSet} :
    r ∈ inSets sets ↔ r ∈ catalog ∧ r.set ∈ sets := by
  simp only [inSets, inSet, List.mem_flatMap, List.mem_filter, beq_iff_eq]
  constructor
  · rintro ⟨s, mem, rule, rfl⟩
    exact ⟨rule, mem⟩
  · rintro ⟨rule, mem⟩
    exact ⟨r.set, mem, rule, rfl⟩

/-- The rules of sets are rules of the catalog. -/
theorem mem_catalog_of_mem_inSets {r : Rule} {sets : List RuleSet} (h : r ∈ inSets sets) :
    r ∈ catalog :=
  (mem_inSets.mp h).1

/-- A rule that does not look ahead finds all matches of its pattern. -/
theorem matchesIn_of_looksAhead_eq_false {r : Rule} (plain : r.pattern.looksAhead = false)
    (source : String) : r.matchesIn source = ⟨r.pattern.spansFrom 0 0 source.toList, false⟩ := by
  rw [matchesIn, matchesAt, budget, plain]
  exact r.pattern.matchesIn_none source.toList

/-- A match of the rule is what its pattern takes at some place of the source. -/
theorem exists_of_mem_spans {r : Rule} {source : String} {m : Span}
    (found : m ∈ (r.matchesIn source).spans) :
    ∃ before taken rest, source.toList = before ++ (taken ++ rest) ∧
      r.pattern.rest? (taken ++ rest) = some rest ∧
      m = ⟨Text.size before, Text.size before + Text.size taken⟩ := by
  have part := (r.pattern.spans_matchesIn_prefix r.budget source.toList).subset found
  obtain ⟨before, taken, rest, text, here, rfl⟩ := r.pattern.exists_of_mem_spansFrom part
  exact ⟨before, taken, rest, text, here, by rw [Nat.zero_add]⟩

/-- The lines on which the matches of the rule start, match by match. -/
def linesIn (r : Rule) (source : String) : List Nat :=
  (r.matchesIn source).spans.map fun m ↦ Source.lineOf source.toList m.start

/-- What the rule reports about a line of the source. -/
def findingOn (r : Rule) (source : String) (line : Nat) : Finding :=
  r.finding line (String.ofList ((Source.Lines.ofSource source.toList).snippet line))

theorem line_findingOn (r : Rule) (source : String) (line : Nat) :
    (r.findingOn source line).line = some line := rfl

/-- The lines of a rule never go back. -/
theorem pairwise_linesIn (r : Rule) (source : String) : (r.linesIn source).Pairwise (· ≤ ·) := by
  apply List.pairwise_map.mpr
  apply (r.pattern.pairwise_matchesIn r.budget source.toList).imp
  intro a b lt
  exact Source.lineOf_mono (Nat.le_of_lt lt)

/-- A rule's findings are what it reports about its lines. -/
theorem findings_eq (r : Rule) (source : String) :
    r.findings (Places.ofList source.toList) (Source.Lines.ofSource source.toList)
      (Source.Lines.ofSource source.toList).snippets =
        (r.linesIn source).map (r.findingOn source) := by
  rw [linesIn, List.map_map]
  apply List.map_congr_left
  intro m _
  have le := Source.Lines.lineOf_le source.toList m.start
  have pos : 1 ≤ Source.lineOf source.toList m.start := by
    rw [Source.lineOf]
    omega
  simp only [Function.comp, findingOn, Source.Lines.lineAt_ofSource,
    Source.Lines.getD_snippets _ pos le]

end Rule

/-- A scan is, rule by rule, what the rule reports about its lines. -/
theorem scan_eq (rules : List Rule) (source : String) :
    scan rules source = rules.flatMap fun r ↦ (r.linesIn source).map (r.findingOn source) := by
  simp only [scan, Rule.findings_eq]

/-- A scan by one rule is what the rule reports about its lines. -/
theorem scan_singleton (r : Rule) (source : String) :
    scan [r] source = (r.linesIn source).map (r.findingOn source) := by
  rw [scan_eq, List.flatMap_singleton]

/-- A scan by one rule reports the lines on which its matches start. -/
theorem exists_mem_scan_singleton {r : Rule} {source : String} {line : Nat} :
    (∃ f ∈ scan [r] source, f.line = some line) ↔ line ∈ r.linesIn source := by
  rw [scan_singleton]
  constructor
  · rintro ⟨f, reported, here⟩
    obtain ⟨n, mem, rfl⟩ := List.mem_map.mp reported
    rw [Rule.line_findingOn, Option.some.injEq] at here
    exact here ▸ mem
  · intro mem
    exact ⟨_, List.mem_map_of_mem mem, r.line_findingOn source line⟩

end ContractScan
