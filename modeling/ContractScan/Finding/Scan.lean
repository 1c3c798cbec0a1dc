import ContractScan.Finding.Basic
import ContractScan.Pattern.Search
import ContractScan.Rule.Catalog
import ContractScan.Source.Lines

/-!
# Scanning a source

Each rule is run over the source by itself, and every match becomes a finding on the line where
the match starts. A rule that runs out of its budget keeps the matches found before.
-/

namespace ContractScan

namespace Rule

/-- The matches of the rule in a text given by its places. -/
def matchesAt (r : Rule) (t : Places) : Matches := r.pattern.matchesIn r.budget t

/-- The matches of the rule in the source, within its budget. -/
def matchesIn (r : Rule) (source : String) : Matches := r.matchesAt (Places.ofList source.toList)

/-- The findings of the rule in a source with the given places, lines and snippets of lines. -/
def findings (r : Rule) (t : Places) (lines : Source.Lines) (snippets : Array (Thunk String)) :
    List Finding :=
  (r.matchesAt t).spans.map fun m ↦
    let line := lines.lineAt m.start
    r.finding line (snippets.getD (line - 1) (Thunk.pure "")).get

end Rule

/-- The findings of the rules in the source, rule by rule. -/
def scan (rules : List Rule) (source : String) : List Finding :=
  let text := source.toList
  let t := Places.ofList text
  let lines := Source.Lines.ofSource text
  let snippets := lines.snippets
  rules.flatMap fun r ↦ r.findings t lines snippets

end ContractScan
