import ContractScan.Analysis
import ContractScan.Proofs.Finding.Finalize
import ContractScan.Proofs.Finding.Scan
import Mathlib.Data.List.Nodup

/-!
# Hits

A hit is a line that a rule has flagged. The findings of an analysis are the hits of the rules that
apply, each once, in the order of gravity, rule and line (`findings_analyze`). That no hit is taken
for another rests on the catalog: the rules for a chain differ in the weakness or in the beginning
of the description (`nodup_title`).
-/

namespace ContractScan

/-- What tells the findings of rules apart when they are on one line. -/
def Rule.title (r : Rule) : String × List Char :=
  (r.weakness, r.description.toList.take Finding.keyLength)

/-- The rules for a chain have different titles. -/
theorem Rule.nodup_title (c : Chain) : ((Rule.inSets c.ruleSets).map Rule.title).Nodup := by
  cases c <;> decide +kernel

/-- A line that a rule has flagged. -/
structure Hit where
  rule : Rule
  line : Nat
deriving DecidableEq, Repr

namespace Hit

/-- What is reported about the hit. -/
def finding (source : String) (h : Hit) : Finding := h.rule.findingOn source h.line

/-- What decides about the place of a hit: gravity, then the place of its rule, then the line. -/
def place (rules : List Rule) (h : Hit) : Nat × Nat × Nat :=
  (h.rule.severity.rank, rules.idxOf h.rule, h.line)

/-- The hit `a` is to be reported before `b`. -/
def Before (rules : List Rule) (a b : Hit) : Prop :=
  Prod.Lex (· < ·) (Prod.Lex (· < ·) (· < ·)) (a.place rules) (b.place rules)

/-- The hits of the rules, rule by rule and match by match. -/
def ofMatches (rules : List Rule) (source : String) : List Hit :=
  rules.flatMap fun r ↦ (r.linesIn source).map (Hit.mk r)

variable {rules : List Rule} {source : String}

theorem mem_ofMatches {h : Hit} :
    h ∈ ofMatches rules source ↔ h.rule ∈ rules ∧ h.line ∈ h.rule.linesIn source := by
  simp only [ofMatches, List.mem_flatMap, List.mem_map]
  constructor
  · rintro ⟨r, mem, line, on, rfl⟩
    exact ⟨mem, on⟩
  · rintro ⟨mem, on⟩
    exact ⟨h.rule, mem, h.line, on, rfl⟩

/-- A scan reports its hits. -/
theorem map_finding_ofMatches (rules : List Rule) (source : String) :
    (ofMatches rules source).map (finding source) = scan rules source := by
  rw [scan_eq, ofMatches, List.map_flatMap]
  simp only [List.map_map]
  rfl

/-- The key of a finding is the line and the title of the rule. -/
theorem key_finding (source : String) (h : Hit) :
    (h.finding source).key = (some h.line, h.rule.title) := rfl

/-- Hits of rules with different titles have different keys. -/
theorem eq_of_key_finding (titles : (rules.map Rule.title).Nodup) {a b : Hit}
    (ha : a.rule ∈ rules) (hb : b.rule ∈ rules)
    (e : (a.finding source).key = (b.finding source).key) : a = b := by
  rw [key_finding, key_finding, Prod.mk.injEq] at e
  have line : a.line = b.line := Option.some.inj e.1
  have rule : a.rule = b.rule := List.inj_on_of_nodup_map titles ha hb e.2
  cases a
  cases b
  cases line
  cases rule
  rfl

/-- Match by match the hits come rule after rule, and those of a rule line after line. -/
theorem pairwise_ofMatches (different : rules.Nodup) (source : String) :
    (ofMatches rules source).Pairwise fun a b ↦
      rules.idxOf a.rule < rules.idxOf b.rule ∨ a.rule = b.rule ∧ a.line ≤ b.line := by
  apply List.pairwise_flatMap.mpr
  constructor
  · intro r _
    apply List.pairwise_map.mpr
    apply (r.pairwise_linesIn source).imp
    intro m n le
    exact .inr ⟨rfl, le⟩
  · apply List.pairwise_iff_getElem.mpr
    intro i j hi hj lt a ha b hb
    obtain ⟨_, _, rfl⟩ := List.mem_map.mp ha
    obtain ⟨_, _, rfl⟩ := List.mem_map.mp hb
    apply Or.inl
    rw [different.idxOf_getElem i hi, different.idxOf_getElem j hj]
    exact lt

/-- What is reported of a scan is each hit once, in order. -/
theorem exists_finalize_scan (titles : (rules.map Rule.title).Nodup) (source : String) :
    ∃ hits : List Hit, Finding.finalize (scan rules source) = hits.map (finding source) ∧
      (∀ h, h ∈ hits ↔ h ∈ ofMatches rules source) ∧ hits.Pairwise (Before rules) := by
  have part := Finding.distinct_sublist [] (scan rules source)
  have keys := Finding.nodup_map_key_distinct [] (scan rules source)
  have found := Finding.mem_map_key_distinct [] (scan rules source)
  rw [← map_finding_ofMatches] at part keys found
  obtain ⟨kept, sub, eq⟩ := List.sublist_map_iff.mp part
  rw [eq] at keys found
  have once : kept.Nodup := List.Nodup.of_map _ (List.Nodup.of_map _ keys)
  have mem (h : Hit) : h ∈ kept ↔ h ∈ ofMatches rules source := by
    constructor
    · exact fun mem ↦ sub.mem mem
    · intro mem
      have key : (h.finding source).key ∈ (kept.map (finding source)).map Finding.key :=
        (found _).mpr ⟨List.mem_map_of_mem (List.mem_map_of_mem mem), List.not_mem_nil⟩
      obtain ⟨_, inner, e⟩ := List.mem_map.mp key
      obtain ⟨h', mem', rfl⟩ := List.mem_map.mp inner
      have same : h' = h := eq_of_key_finding titles (mem_ofMatches.mp (sub.mem mem')).1
        (mem_ofMatches.mp mem).1 e
      rwa [← same]
  refine ⟨Severity.grouped (fun h ↦ h.rule.severity) kept, ?_, ?_, ?_⟩
  · rw [Finding.finalize_eq, ← map_finding_ofMatches, eq]
    exact (Severity.map_grouped _ Finding.severity (finding source) (fun _ ↦ rfl) kept).symm
  · intro h
    rw [Severity.mem_grouped, mem]
  · -- hits of one gravity keep the order of the scan, where only a repeated one does not advance
    have order := ((pairwise_ofMatches (List.Nodup.of_map _ titles) source).sublist sub).and once
    apply (Severity.pairwise_grouped _ order).imp
    intro a b before
    rw [Before, Prod.lex_def, Prod.lex_def]
    rcases before with graver | ⟨gravity, sooner | ⟨rule, le⟩, ne⟩
    · exact .inl graver
    · exact .inr ⟨gravity, .inl sooner⟩
    · have line : a.line ≠ b.line := by
        intro e
        cases a
        cases b
        exact ne (by rw [Hit.mk.injEq]; exact ⟨rule, e⟩)
      refine .inr ⟨gravity, .inr ⟨?_, ?_⟩⟩
      · simp only [place, rule]
      · exact Nat.lt_of_le_of_ne le line

end Hit

/-- What a rule that applies reports about a match is among the findings of an analysis. -/
theorem findingOn_mem_analyze {r : Rule} {source : String} {origin : Option String} {m : Span}
    (applies : r ∈ Rule.inSets (classify source origin).chain.ruleSets)
    (found : m ∈ (r.matchesIn source).spans) :
    r.findingOn source (Source.lineOf source.toList m.start) ∈
      (analyze source origin).findings := by
  obtain ⟨hits, eq, mem, -⟩ :=
    Hit.exists_finalize_scan (Rule.nodup_title (classify source origin).chain) source
  have hit : ⟨r, Source.lineOf source.toList m.start⟩ ∈ hits :=
    (mem _).mpr (Hit.mem_ofMatches.mpr ⟨applies, List.mem_map_of_mem found⟩)
  rw [analyze, eq]
  exact List.mem_map_of_mem (f := Hit.finding source) hit

/-- What is reported by an analysis is what a rule that applies reports about the line of a match. -/
theorem exists_of_mem_analyze {source : String} {origin : Option String} {f : Finding}
    (mem : f ∈ (analyze source origin).findings) :
    ∃ r ∈ Rule.inSets (classify source origin).chain.ruleSets, ∃ n ∈ r.linesIn source,
      f = r.findingOn source n := by
  obtain ⟨hits, eq, flagged, -⟩ :=
    Hit.exists_finalize_scan (Rule.nodup_title (classify source origin).chain) source
  rw [analyze, eq] at mem
  obtain ⟨h, hit, rfl⟩ := List.mem_map.mp mem
  obtain ⟨applies, here⟩ := Hit.mem_ofMatches.mp ((flagged h).mp hit)
  exact ⟨h.rule, applies, h.line, here, rfl⟩

/-- The findings of an analysis are what the rules that apply report about the lines on which their
matches start. Each such line of a rule is reported once, and the list is strictly ascending in
gravity, rule and line. -/
theorem findings_analyze (source : String) (origin : Option String) :
    let rules := Rule.inSets (classify source origin).chain.ruleSets
    let findings := (analyze source origin).findings
    (∀ f, f ∈ findings ↔ ∃ r ∈ rules, ∃ m ∈ (r.matchesIn source).spans,
      f = r.findingOn source (Source.lineOf source.toList m.start)) ∧
    (∀ r ∈ rules, ∀ m ∈ (r.matchesIn source).spans,
      findings.count (r.findingOn source (Source.lineOf source.toList m.start)) = 1) ∧
    ∃ hits : List Hit, findings = hits.map (Hit.finding source) ∧
      (∀ h, h ∈ hits ↔ h.rule ∈ rules ∧
        ∃ m ∈ (h.rule.matchesIn source).spans, h.line = Source.lineOf source.toList m.start) ∧
      hits.Pairwise (Hit.Before rules) := by
  intro rules findings
  obtain ⟨hits, eq, mem, order⟩ :=
    Hit.exists_finalize_scan (Rule.nodup_title (classify source origin).chain) source
  have flagged (h : Hit) : h ∈ hits ↔ h.rule ∈ rules ∧
      ∃ m ∈ (h.rule.matchesIn source).spans, h.line = Source.lineOf source.toList m.start := by
    rw [mem, Hit.mem_ofMatches, Rule.linesIn, List.mem_map]
    simp only [eq_comm]
    rfl
  have once : findings.Nodup := List.Nodup.of_map _ (Finding.nodup_map_key_finalize _)
  have reported (f : Finding) : f ∈ findings ↔ ∃ r ∈ rules, ∃ m ∈ (r.matchesIn source).spans,
      f = r.findingOn source (Source.lineOf source.toList m.start) := by
    change f ∈ Finding.finalize (scan rules source) ↔ _
    rw [eq, List.mem_map]
    constructor
    · rintro ⟨h, hit, rfl⟩
      obtain ⟨rule, m, span, line⟩ := (flagged h).mp hit
      refine ⟨h.rule, rule, m, span, ?_⟩
      rw [← line]
      rfl
    · rintro ⟨r, rule, m, span, rfl⟩
      exact ⟨⟨r, Source.lineOf source.toList m.start⟩, (flagged _).mpr ⟨rule, m, span, rfl⟩, rfl⟩
  refine ⟨reported, ?_, hits, eq, flagged, order⟩
  intro r rule m span
  exact List.count_eq_one_of_mem once ((reported _).mpr ⟨r, rule, m, span, rfl⟩)

end ContractScan
