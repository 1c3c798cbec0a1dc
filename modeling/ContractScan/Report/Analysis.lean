import ContractScan.Analysis
import ContractScan.Report.Styled
import ContractScan.Text.Lines

/-!
# Reports of analyses

A report opens with what the source is written for, lists the findings at least as grave as a
threshold, and closes with the summary of all findings and how many of them are hidden.
-/

namespace ContractScan

namespace Severity

/-- The style of the severity. -/
def style : Severity → Report.Style
  | .critical => .alarm
  | .high => .red
  | .medium => .yellow
  | .low => .blue
  | .info => .plain

/-- The severity in a column of its own. -/
def label (s : Severity) : Report.Piece := ⟨s.style, Report.padded 8 s.name⟩

end Severity

namespace Report

/-- The entries in both classifications, in brackets after a blank, if there are any. -/
def entries (swc cwe : Option String) : String :=
  match swc.toList ++ cwe.toList with
  | [] => ""
  | ids => " [" ++ ", ".intercalate ids ++ "]"

/-- What the source is written for. -/
def header (c : Context) : List Line :=
  let framework := (c.framework.map (", " ++ ·)).getD ""
  let first :=
    [.bold "Blockchain:", .plain (" " ++ c.chain.title ++ " (" ++ c.language ++ framework ++ ")")]
  let platform := c.chain.info?.map fun i ↦
    [.bold "Platform:",
      .plain (" " ++ i.description ++ " (" ++ i.consensus ++ " consensus, " ++ i.explorer ++ ")")]
  first :: platform.toList

/-- The line that names a finding. -/
def title (f : Finding) : Line :=
  let line := "line " ++ (f.line.map toString).getD "?"
  [f.severity.label, .plain " ", ⟨.brightCyan, padded 9 line⟩, .plain " ", .bold f.weakness,
    .plain (": " ++ f.description), ⟨.dimmed, entries f.swc f.cwe⟩]

/-- The source lines of a finding and what to do about it. -/
def details (f : Finding) : List Line :=
  ((Text.lines f.snippet.toList).map fun l ↦ [.plain "    ", ⟨.dimmed, String.ofList l⟩]) ++
    [[.plain "    ", ⟨.green, "fix:"⟩, .plain (" " ++ f.recommendation)]]

/-- What is said about a finding. -/
def block (snippets : Bool) (f : Finding) : List Line :=
  title f :: (if snippets then details f else [])

/-- The findings that are listed, or that there are none. -/
def listing (snippets : Bool) (shown : List Finding) : List Line :=
  (if shown.isEmpty then [[⟨.brightGreen, "No issues found."⟩]] else []) ++
    shown.flatMap (block snippets)

/-- The counts and ratings of all findings, after an empty line. -/
def totals (s : Summary) : List Line :=
  let counts := Severity.all.map fun v ↦
    toString (s.count v) ++ " " ++ Text.lowerAscii v.name
  [[], [.bold "Summary:",
    .plain (" " ++ toString s.total ++ " findings (" ++ ", ".intercalate counts ++ "), risk " ++
      s.risk.name ++ ", score " ++ toString s.score ++ "/100")]]

/-- How many findings are not listed, if there are any. -/
def hidden (total shown : Nat) (threshold : Severity) : List Line :=
  if shown < total then
    [[.plain (toString (total - shown) ++ " findings below " ++ threshold.name ++ " hidden")]]
  else []

/-- The warning about critical findings, listed or not. -/
def warning (s : Summary) : List Line :=
  if s.hasCritical then
    [[⟨.alarm, "Critical issues present: fix these before deploying."⟩]]
  else []

end Report

namespace Analysis

/-- The report of the analysis, with the source lines of findings or without. -/
def report (a : Analysis) (threshold : Severity) (snippets : Bool) : List Report.Line :=
  let shown := a.atLeast threshold
  Report.header a.context ++ Report.listing snippets shown ++ Report.totals a.summary ++
    Report.hidden a.summary.total shown.length threshold ++ Report.warning a.summary

end Analysis

end ContractScan
