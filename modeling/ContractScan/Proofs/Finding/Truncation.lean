import ContractScan.Proofs.Finding.Scan

/-!
# Searches that are cut short

A rule that spends its budget stops, and keeps the matches it has found. These are the first of the
matches that it has without a limit, whatever the limit is (`Rule.spans_matchesWithin_prefix`), and
what the other rules report does not depend on it (`scan_inSets`).
-/

namespace ContractScan

namespace Rule

/-- The matches of the rule in the source, each search within the limit if there is one. -/
def matchesWithin (r : Rule) (limit : Option Budget) (source : String) : Matches :=
  r.pattern.matchesIn limit (Places.ofList source.toList)

/-- What the rule would report about the source if its searches had no limit. -/
def unlimitedFindings (r : Rule) (source : String) : List Finding :=
  (r.matchesWithin none source).spans.map fun m ↦
    r.findingOn source (Source.lineOf source.toList m.start)

variable {r : Rule} {source : String}

/-- The rule searches within its budget. -/
theorem matchesIn_eq_matchesWithin (r : Rule) (source : String) :
    r.matchesIn source = r.matchesWithin r.budget source := rfl

/-- Within a limit the rule finds the first of its matches. -/
theorem spans_matchesWithin_prefix (r : Rule) (limit : Option Budget) (source : String) :
    (r.matchesWithin limit source).spans <+: (r.matchesWithin none source).spans := by
  rw [matchesWithin, matchesWithin, r.pattern.matchesIn_none]
  exact r.pattern.spans_matchesIn_prefix limit source.toList

/-- Unless a search is cut short, the rule finds all of its matches. -/
theorem spans_matchesWithin_eq {limit : Option Budget}
    (whole : (r.matchesWithin limit source).exhausted = false) :
    (r.matchesWithin limit source).spans = (r.matchesWithin none source).spans := by
  rw [matchesWithin, matchesWithin, r.pattern.matchesIn_none]
  exact r.pattern.spans_matchesIn limit source.toList whole

/-- The way to the second match is too long for the limit. -/
example :
    let source := "a.send(1);\n                        b.send(2);"
    Evm.uncheckedCall.matchesWithin (some ⟨20, 20⟩) source = ⟨[⟨1, 10⟩], true⟩ ∧
    Evm.uncheckedCall.matchesWithin none source = ⟨[⟨1, 10⟩, ⟨36, 45⟩], false⟩ := by
  decide +kernel

theorem scan_singleton_eq_map (r : Rule) (source : String) : scan [r] source =
    (r.matchesIn source).spans.map fun m ↦
      r.findingOn source (Source.lineOf source.toList m.start) := by
  rw [scan_singleton, linesIn, List.map_map]
  rfl

/-- A rule alone reports the first of what it would report without a limit. -/
theorem scan_singleton_prefix (r : Rule) (source : String) :
    scan [r] source <+: r.unlimitedFindings source := by
  rw [scan_singleton_eq_map]
  exact (r.spans_matchesWithin_prefix r.budget source).map _

theorem scan_singleton_eq_unlimited (whole : (r.matchesIn source).exhausted = false) :
    scan [r] source = r.unlimitedFindings source := by
  rw [matchesIn_eq_matchesWithin] at whole
  rw [scan_singleton_eq_map, matchesIn_eq_matchesWithin, spans_matchesWithin_eq whole,
    unlimitedFindings]

end Rule

/-- The scans of two lists of rules follow each other. -/
theorem scan_append (rules rules' : List Rule) (source : String) :
    scan (rules ++ rules') source = scan rules source ++ scan rules' source := by
  rw [scan_eq, List.flatMap_append, ← scan_eq, ← scan_eq]

/-- A scan is the scans of its rules alone, one after the other. -/
theorem scan_eq_flatMap (rules : List Rule) (source : String) :
    scan rules source = rules.flatMap fun r ↦ scan [r] source := by
  rw [scan_eq rules]
  simp only [scan_singleton]

/-- A budget only cuts off the matches of a rule at some point, and leaves all of them if no search
reports that it is spent. In a scan for any sets the rules report one after the other what each
reports alone: where a rule is cut short, it still reports the first of its findings, and the rules
before and behind it report what they report without it. -/
theorem scan_inSets (sets : List RuleSet) (source : String) :
    (∀ r : Rule, (r.matchesIn source).spans <+: (r.matchesWithin none source).spans ∧
      ((r.matchesIn source).exhausted = false →
        (r.matchesIn source).spans = (r.matchesWithin none source).spans)) ∧
    scan (Rule.inSets sets) source = (Rule.inSets sets).flatMap (fun r ↦ scan [r] source) ∧
    ∀ before r after, Rule.inSets sets = before ++ r :: after →
      scan (Rule.inSets sets) source =
        scan before source ++ (scan [r] source ++ scan after source) ∧
      scan [r] source <+: r.unlimitedFindings source ∧
      ((r.matchesIn source).exhausted = false → scan [r] source = r.unlimitedFindings source) := by
  refine ⟨fun r ↦ ⟨r.spans_matchesWithin_prefix r.budget source, Rule.spans_matchesWithin_eq⟩,
    scan_eq_flatMap _ source, ?_⟩
  intro before r after rules
  refine ⟨?_, r.scan_singleton_prefix source, Rule.scan_singleton_eq_unlimited⟩
  rw [rules, scan_append, ← scan_append [r] after, List.singleton_append]

end ContractScan
