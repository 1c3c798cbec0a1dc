import ContractScan.Analysis
import ContractScan.Proofs.Chain.Words
import ContractScan.Proofs.Finding.Quotation
import ContractScan.Proofs.Pattern.LetterCase
import Mathlib.Data.List.Basic

/-!
# Letter case in an analysis

The case of ASCII letters decides nothing: neither the classification, nor the matches of the
rules, nor what is reported beside the quoted lines (`analyze_of_map_toLower_eq`).
-/

namespace ContractScan

namespace Source

/-- Letter case does not move a line. -/
theorem lineOf_map_toLower (s : List Char) (offset : Nat) :
    lineOf (s.map Char.toLower) offset = lineOf s offset := by
  have count : (Text.before offset (s.map Char.toLower)).count '\n' =
      (Text.before offset s).count '\n' := by
    induction s generalizing offset with
    | nil => rfl
    | cons c s ih =>
      by_cases pos : 0 < offset
      · rw [List.map_cons, Text.before_cons pos, Text.before_cons pos, Text.utf8Size_toLower,
          List.count_cons, List.count_cons, ih]
        simp only [beq_iff_eq, Text.toLower_eq_newline]
      · rw [show offset = 0 by omega, Text.before_zero, Text.before_zero]
  rw [lineOf, lineOf, count]

end Source

/-- Words are found in any letter case. -/
theorem classify_eq_of_map_toLower {source source' : String}
    (h : source.toList.map Char.toLower = source'.toList.map Char.toLower)
    (origin : Option String) : classify source origin = classify source' origin := by
  apply classify_congr
  intro w _
  rw [Text.mentions, Text.mentions, h]

namespace Rule

/-- No rule of the catalog tells the two cases of a letter apart. -/
theorem ignoresCase_of_mem_catalog {r : Rule} (h : r ∈ catalog) :
    r.pattern.ignoresCase (fun l ↦ l.ignoresCase Empty.elim) = true := by
  have all : catalog.all (fun r ↦ r.pattern.ignoresCase fun l ↦ l.ignoresCase Empty.elim) = true :=
    by decide +kernel
  exact List.all_eq_true.mp all r h

variable {r : Rule} {source source' : String}

theorem matchesIn_eq_of_map_toLower (mem : r ∈ catalog)
    (h : source.toList.map Char.toLower = source'.toList.map Char.toLower) :
    r.matchesIn source = r.matchesIn source' :=
  Pattern.matchesIn_eq_of_map_toLower (ignoresCase_of_mem_catalog mem) r.budget h

theorem linesIn_eq_of_map_toLower (mem : r ∈ catalog)
    (h : source.toList.map Char.toLower = source'.toList.map Char.toLower) :
    r.linesIn source = r.linesIn source' := by
  rw [linesIn, linesIn, matchesIn_eq_of_map_toLower mem h]
  apply List.map_congr_left
  intro m _
  rw [← Source.lineOf_map_toLower, h, Source.lineOf_map_toLower]

end Rule

/-- Letter case changes nothing in the findings but what they quote. -/
theorem map_unquoted_findings_of_map_toLower {source source' : String}
    (h : source.toList.map Char.toLower = source'.toList.map Char.toLower)
    (origin : Option String) :
    (analyze source origin).findings.map Finding.unquoted =
      (analyze source' origin).findings.map Finding.unquoted := by
  have lines (r : Rule) (mem : r ∈ Rule.inSets (classify source' origin).chain.ruleSets) :
      ((r.linesIn source).map fun line ↦ r.finding line "") =
        (r.linesIn source').map fun line ↦ r.finding line "" := by
    rw [Rule.linesIn_eq_of_map_toLower (Rule.mem_catalog_of_mem_inSets mem) h]
  simp only [analyze, classify_eq_of_map_toLower h, Finding.map_unquoted_finalize,
    map_unquoted_scan]
  exact congrArg Finding.finalize (List.flatMap_congr lines)

/-- Two sources that differ in the case of ASCII letters only are classified alike, have the same
matches for every rule, and are reported on alike: the same weaknesses, severities and lines in the
same order, and the same summary. -/
theorem analyze_of_map_toLower_eq (source source' : String)
    (h : source.toList.map Char.toLower = source'.toList.map Char.toLower)
    (origin : Option String) :
    classify source origin = classify source' origin ∧
    (∀ r ∈ Rule.catalog, r.matchesIn source = r.matchesIn source') ∧
    ((analyze source origin).findings.map fun f ↦ (f.weakness, f.severity, f.line)) =
      ((analyze source' origin).findings.map fun f ↦ (f.weakness, f.severity, f.line)) ∧
    (analyze source origin).summary = (analyze source' origin).summary := by
  have same := map_unquoted_findings_of_map_toLower h origin
  have read {α : Type} (g : Finding → α) (hg : ∀ f, g f.unquoted = g f) :
      (analyze source origin).findings.map g = (analyze source' origin).findings.map g := by
    have through := congrArg (List.map g) same
    simpa only [List.map_map, Function.comp_def, hg] using through
  refine ⟨classify_eq_of_map_toLower h origin, ?_, ?_, ?_⟩
  · intro r mem
    exact Rule.matchesIn_eq_of_map_toLower mem h
  · exact read _ fun _ ↦ rfl
  · exact Summary.ofFindings_congr (read Finding.severity fun _ ↦ rfl)

/-- Shouting changes nothing about a dangerous call. -/
theorem analyze_shouted :
    "a.delegatecall(x)".toList.map Char.toLower = "A.DelegateCALL(X)".toList.map Char.toLower ∧
    classify "a.delegatecall(x)" none = classify "A.DelegateCALL(X)" none ∧
    (∀ r ∈ Rule.catalog, r.matchesIn "a.delegatecall(x)" = r.matchesIn "A.DelegateCALL(X)") ∧
    ((analyze "a.delegatecall(x)" none).findings.map fun f ↦ (f.weakness, f.severity, f.line)) =
      ((analyze "A.DelegateCALL(X)" none).findings.map
        fun f ↦ (f.weakness, f.severity, f.line)) ∧
    (analyze "a.delegatecall(x)" none).summary = (analyze "A.DelegateCALL(X)" none).summary := by
  have lower : "a.delegatecall(x)".toList.map Char.toLower =
      "A.DelegateCALL(X)".toList.map Char.toLower := by decide
  exact ⟨lower, analyze_of_map_toLower_eq _ _ lower none⟩

end ContractScan
