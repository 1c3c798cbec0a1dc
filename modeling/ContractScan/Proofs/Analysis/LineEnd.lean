import ContractScan.Analysis
import ContractScan.Proofs.Chain.Words
import ContractScan.Proofs.Finding.Scan
import ContractScan.Proofs.Pattern.LineEnd
import Mathlib.Data.List.Basic

/-!
# Line ends in an analysis

Pairs of a carriage return and a newline at the ends of the lines are classified, searched and
quoted like newlines alone, so the report is the same (`analyze_crlf`).
-/

namespace ContractScan

/-- The source with a carriage return before each newline. -/
def Source.crlf (source : String) : String := String.ofList (Text.crlf source.toList)

open Source (crlf)

@[simp] theorem Source.toList_crlf (source : String) :
    (crlf source).toList = Text.crlf source.toList :=
  String.toList_ofList

/-- The words that classify a source stand inside lines. -/
theorem classify_crlf (source : String) (origin : Option String) :
    classify (crlf source) origin = classify source origin := by
  apply classify_congr
  intro w mem
  have inside : ∀ w ∈ Context.words, w.toList ≠ [] ∧ '\n' ∉ w.toList ∧ '\r' ∉ w.toList := by
    decide
  obtain ⟨ne, newline, carriage⟩ := inside w mem
  rw [Text.mentions, Text.mentions, Source.toList_crlf, Text.map_toLower_crlf,
    Text.hasInfix_crlf ne newline carriage]

namespace Source.Lines

/-- The two forms of line ends make the same lines. -/
theorem texts_crlf {s : List Char} (plain : '\r' ∉ s) :
    (ofSource (Text.crlf s)).texts = (ofSource s).texts := by
  rw [ofSource, ofSource]
  simp only [Text.map_chomp_splitOn plain, Text.map_chomp_splitOn_crlf plain]

/-- The two forms of line ends are quoted alike. -/
theorem snippet_crlf {s : List Char} (plain : '\r' ∉ s) (line : Nat) :
    (ofSource (Text.crlf s)).snippet line = (ofSource s).snippet line := by
  rw [snippet, snippet, texts_crlf plain]

end Source.Lines

namespace Rule

/-- No rule of the catalog tells the two forms of line ends apart. -/
theorem evenAtLineEnds_of_mem_catalog {r : Rule} (h : r ∈ catalog) :
    r.pattern.evenAtLineEnds (fun l ↦ l.evenAtLineEnds Empty.elim true) true = true ∧
      r.pattern.avoidsNewline = true := by
  have all : catalog.all (fun r ↦
      r.pattern.evenAtLineEnds (fun l ↦ l.evenAtLineEnds Empty.elim true) true &&
        r.pattern.avoidsNewline) = true := by decide +kernel
  exact Bool.and_eq_true_iff.mp (List.all_eq_true.mp all r h)

variable {r : Rule} {source : String}

/-- The lines of a rule whose search is not cut short are those of the pattern. -/
theorem linesIn_eq_linesFrom (within : (r.matchesIn source).exhausted = false) :
    r.linesIn source = r.pattern.linesFrom 1 0 source.toList := by
  have spans : (r.matchesIn source).spans = r.pattern.spansFrom 0 0 source.toList :=
    r.pattern.spans_matchesIn r.budget source.toList within
  rw [linesIn, spans]
  exact r.pattern.map_lineOf_spansFrom [] source.toList 0

/-- A rule has matches on the same lines for both forms of line ends. -/
theorem linesIn_crlf (mem : r ∈ catalog) (within : (r.matchesIn source).exhausted = false)
    (within' : (r.matchesIn (crlf source)).exhausted = false) :
    r.linesIn (crlf source) = r.linesIn source := by
  obtain ⟨even, avoids⟩ := evenAtLineEnds_of_mem_catalog mem
  rw [linesIn_eq_linesFrom within, linesIn_eq_linesFrom within', Source.toList_crlf]
  exact (Pattern.linesFrom_meets even avoids 1 (.same source.toList)).symm

/-- What a rule reports about a line is the same for both forms of line ends. -/
theorem findingOn_crlf (plain : '\r' ∉ source.toList) (line : Nat) :
    r.findingOn (crlf source) line = r.findingOn source line := by
  rw [findingOn, findingOn, Source.toList_crlf, Source.Lines.snippet_crlf plain]

end Rule

/-- A scan finds the same for both forms of line ends. -/
theorem scan_crlf {sets : List RuleSet} {source : String} (plain : '\r' ∉ source.toList)
    (within : ∀ r ∈ Rule.inSets sets, (r.matchesIn source).exhausted = false)
    (within' : ∀ r ∈ Rule.inSets sets, (r.matchesIn (crlf source)).exhausted = false) :
    scan (Rule.inSets sets) (crlf source) = scan (Rule.inSets sets) source := by
  rw [scan_eq, scan_eq]
  apply List.flatMap_congr
  intro r mem
  rw [Rule.linesIn_crlf (Rule.mem_catalog_of_mem_inSets mem) (within r mem) (within' r mem)]
  apply List.map_congr_left
  intro line _
  exact Rule.findingOn_crlf plain line

/-- A source whose lines end by newlines, and the same with pairs of a carriage return and a newline
instead, have the same context, findings and summary, as long as no search is cut short. -/
theorem analyze_crlf (source : String) (origin : Option String) (plain : '\r' ∉ source.toList)
    (within : ∀ r ∈ Rule.inSets (classify source origin).chain.ruleSets,
      (r.matchesIn source).exhausted = false)
    (within' : ∀ r ∈ Rule.inSets (classify (crlf source) origin).chain.ruleSets,
      (r.matchesIn (crlf source)).exhausted = false) :
    (analyze (crlf source) origin).context = (analyze source origin).context ∧
    (analyze (crlf source) origin).findings = (analyze source origin).findings ∧
    (analyze (crlf source) origin).summary = (analyze source origin).summary := by
  rw [classify_crlf] at within'
  have context : (analyze (crlf source) origin).context = (analyze source origin).context := by
    simp only [analyze, classify_crlf]
  have found : (analyze (crlf source) origin).findings = (analyze source origin).findings := by
    simp only [analyze, classify_crlf]
    rw [scan_crlf plain within within']
  have summary (source : String) : (analyze source origin).summary =
      Summary.ofFindings (analyze source origin).findings := by
    rw [analyze]
  refine ⟨context, found, ?_⟩
  rw [summary, summary, found]

/-- A comparison that runs over a line end is reported alike. -/
theorem analyze_crlf_comparison :
    '\r' ∉ "tx.origin\n== a".toList ∧
    (analyze (crlf "tx.origin\n== a") none).context =
      (analyze "tx.origin\n== a" none).context ∧
    (analyze (crlf "tx.origin\n== a") none).findings =
      (analyze "tx.origin\n== a" none).findings ∧
    (analyze (crlf "tx.origin\n== a") none).summary =
      (analyze "tx.origin\n== a" none).summary := by
  have plain : '\r' ∉ "tx.origin\n== a".toList := by decide
  exact ⟨plain, analyze_crlf _ none plain (by decide +kernel) (by decide +kernel)⟩

end ContractScan
