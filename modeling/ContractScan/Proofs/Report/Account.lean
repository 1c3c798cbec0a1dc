import ContractScan.Proofs.Finding.Additive
import ContractScan.Report.Analysis

/-!
# What a report accounts for

Without colours a report is a row of lines (`render_false`). Which findings are shown is told by the
threshold, and what stands below them by the summary; both account for the same findings
(`render_report`).
-/

namespace ContractScan

namespace Report

/-- The text of a line. -/
def text (l : Line) : String := String.join (l.map Piece.text)

/-- Lines, each with its end. -/
def unlines (ls : List String) : String := String.join (ls.map (· ++ "\n"))

/-- Without colours the texts of the lines are written. -/
theorem render_false (lines : List Line) : render false lines = unlines (lines.map text) := by
  have line (l : Line) : (text l ++ "\n").toList = l.flatMap (Piece.render false) ++ ['\n'] := by
    rw [String.toList_append, text, String.toList_join, List.flatMap_map]
    rfl
  refine String.toList_inj.mp ?_
  rw [render, unlines, String.toList_ofList, String.toList_join, List.flatMap_map, List.flatMap_map]
  simp only [line]

theorem text_headed (a b : String) : text [.bold a, .plain (" " ++ b)] = a ++ " " ++ b := by
  change "" ++ a ++ (" " ++ b) = a ++ " " ++ b
  rw [String.empty_append, String.append_assoc]

/-- What the source is written for: a line on the chain, and one on its platform if there is
one. -/
def headerLines (c : Context) : List String :=
  ("Blockchain: " ++ c.chain.title ++ " (" ++ c.language ++
      (c.framework.map (", " ++ ·)).getD "" ++ ")") ::
    (c.chain.info?.map fun i ↦ "Platform: " ++ i.description ++ " (" ++ i.consensus ++
      " consensus, " ++ i.explorer ++ ")").toList

theorem map_text_header (c : Context) : (header c).map text = headerLines c := by
  simp only [header, headerLines, List.map_cons, String.append_assoc, text_headed]
  cases c.chain.info? with
  | none => rfl
  | some i =>
    simp only [Option.map_some, Option.toList_some, List.map_cons, List.map_nil,
      String.append_assoc, text_headed]
    rfl

/-- A finding: a line that names it and, with snippets, the lines of its snippet and one on what to
do. -/
def blockLines (snippets : Bool) (f : Finding) : List String :=
  (padded 8 f.severity.name ++ " " ++ padded 9 ("line " ++ (f.line.map toString).getD "?") ++ " " ++
      f.weakness ++ ": " ++ f.description ++ entries f.swc f.cwe) ::
    if snippets then
      ((Text.lines f.snippet.toList).map fun l ↦ "    " ++ String.ofList l) ++
        ["    fix: " ++ f.recommendation]
    else []

theorem map_text_details (f : Finding) : (details f).map text =
    ((Text.lines f.snippet.toList).map fun l ↦ "    " ++ String.ofList l) ++
      ["    fix: " ++ f.recommendation] := by
  simp only [details, text, Piece.plain, List.map_append, List.map_map, Function.comp_def,
    List.map_cons, List.map_nil, String.join_cons, String.join_nil, String.append_empty]
  rfl

theorem map_text_block (snippets : Bool) (f : Finding) :
    (block snippets f).map text = blockLines snippets f := by
  have title : text (title f) = padded 8 f.severity.name ++ " " ++
      padded 9 ("line " ++ (f.line.map toString).getD "?") ++ " " ++ f.weakness ++ ": " ++
      f.description ++ entries f.swc f.cwe := by
    simp only [Report.title, text, Severity.label, Piece.plain, Piece.bold, List.map_cons,
      List.map_nil, String.join_cons, String.join_nil, String.append_assoc, String.append_empty]
  cases snippets with
  | false => simp [block, blockLines, title]
  | true => simp [block, blockLines, title, map_text_details]

/-- The numbers of findings of the five severities. -/
def countsText (s : Summary) : String :=
  ", ".intercalate [toString (s.count .critical) ++ " critical",
    toString (s.count .high) ++ " high", toString (s.count .medium) ++ " medium",
    toString (s.count .low) ++ " low", toString (s.count .info) ++ " info"]

theorem intercalate_counts (s : Summary) :
    ", ".intercalate (Severity.all.map fun v ↦
      toString (s.count v) ++ " " ++ Text.lowerAscii v.name) = countsText s := by
  have names : (Severity.all.map fun v ↦ " " ++ Text.lowerAscii v.name) =
      [" critical", " high", " medium", " low", " info"] := by decide +kernel
  simp only [Severity.all, List.map_cons, List.map_nil, List.cons.injEq, and_true] at names
  obtain ⟨critical, high, medium, low, info⟩ := names
  simp only [countsText, Severity.all, List.map_cons, List.map_nil, String.append_assoc, critical,
    high, medium, low, info]

/-- The counts and ratings of all findings. -/
def totalsLine (s : Summary) : String :=
  "Summary: " ++ toString s.total ++ " findings (" ++ countsText s ++ "), risk " ++ s.risk.name ++
    ", score " ++ toString s.score ++ "/100"

theorem map_text_totals (s : Summary) : (totals s).map text = ["", totalsLine s] := by
  simp only [totals, intercalate_counts]
  -- An equation for so long a row of appends is slow to make, so the definition is opened as it is.
  delta totalsLine
  simp only [List.map_cons, List.map_nil, String.append_assoc, text_headed]
  rfl

theorem map_text_listing (snippets : Bool) (shown : List Finding) :
    (listing snippets shown).map text = (if shown = [] then ["No issues found."] else []) ++
      shown.flatMap (blockLines snippets) := by
  simp only [listing, List.map_append, List.map_flatMap, map_text_block, List.isEmpty_iff,
    apply_ite (List.map text), List.map_cons, List.map_nil]
  rfl

theorem map_text_hidden (total shown : Nat) (t : Severity) :
    (hidden total shown t).map text =
      if shown < total then [toString (total - shown) ++ " findings below " ++ t.name ++ " hidden"]
      else [] := by
  simp only [hidden, apply_ite (List.map text), List.map_cons, List.map_nil]
  simp only [text, Piece.plain, List.map_cons, List.map_nil, String.join_cons, String.join_nil,
    String.append_empty]

theorem map_text_warning (s : Summary) :
    (warning s).map text =
      if s.hasCritical then ["Critical issues present: fix these before deploying."] else [] := by
  simp only [warning, apply_ite (List.map text), List.map_cons, List.map_nil]
  rfl

end Report

namespace Finding

/-- A finding is at least as grave as a threshold or below it. -/
theorem length_filter_add_length_filter (fs : List Finding) (t : Severity) :
    (fs.filter fun f ↦ f.severity.rank ≤ t.rank).length +
      (fs.filter fun f ↦ t.rank < f.severity.rank).length = fs.length := by
  rw [fs.length_eq_length_filter_add fun f ↦ decide (f.severity.rank ≤ t.rank)]
  simp only [← decide_not, Nat.not_le]

/-- A critical finding is at least as grave as any threshold. -/
theorem mem_filter_of_critical {fs : List Finding} {f : Finding} (mem : f ∈ fs)
    (critical : f.severity = .critical) (t : Severity) :
    f ∈ fs.filter fun f ↦ f.severity.rank ≤ t.rank := by
  refine List.mem_filter.mpr ⟨mem, decide_eq_true ?_⟩
  rw [critical]
  exact Nat.zero_le _

end Finding

/-- Some finding is critical just when one of those at least as grave as a threshold is. -/
theorem Summary.hasCritical_ofFindings (fs : List Finding) (t : Severity) :
    (ofFindings fs).hasCritical = true ↔
      ∃ f ∈ fs.filter fun f ↦ f.severity.rank ≤ t.rank, f.severity = .critical := by
  rw [hasCritical, decide_eq_true_eq, count_ofFindings, List.countP_pos_iff]
  constructor
  · rintro ⟨f, mem, critical⟩
    have critical : f.severity = .critical := (of_decide_eq_true critical).symm
    exact ⟨f, Finding.mem_filter_of_critical mem critical t, critical⟩
  · rintro ⟨f, shown, critical⟩
    exact ⟨f, List.mem_of_mem_filter shown, decide_eq_true critical.symm⟩

namespace Analysis

open Report (headerLines blockLines totalsLine)

/-- A report is a row of parts: what the source is written for; the findings at least as grave as
the threshold, in their order, or that there are none; the totals of all findings; how many are not
shown, if any; and a warning if one that is shown is critical. The five counts add up to the total,
and so do the findings shown and those below the threshold. -/
theorem render_report (a : Analysis) (summed : a.summary = Summary.ofFindings a.findings)
    (t : Severity) (snippets : Bool) :
    let shown := a.findings.filter fun f ↦ f.severity.rank ≤ t.rank
    let below := a.findings.filter fun f ↦ t.rank < f.severity.rank
    Report.render false (a.report t snippets) = Report.unlines (
      headerLines a.context ++
      (if shown = [] then ["No issues found."] else []) ++
      shown.flatMap (blockLines snippets) ++
      ["", totalsLine a.summary] ++
      (if below = [] then [] else
        [toString (a.findings.length - shown.length) ++ " findings below " ++ t.name ++
          " hidden"]) ++
      (if ∃ f ∈ shown, f.severity = .critical then
        ["Critical issues present: fix these before deploying."] else [])) ∧
    a.summary.total = a.findings.length ∧
    (∀ v, a.summary.count v = a.findings.countP fun f ↦ v = f.severity) ∧
    a.summary.count .critical + a.summary.count .high + a.summary.count .medium +
      a.summary.count .low + a.summary.count .info = a.summary.total ∧
    shown.length + below.length = a.findings.length ∧
    (below ≠ [] → 1 ≤ a.findings.length - shown.length) := by
  intro shown below
  have parts : shown.length + below.length = a.findings.length :=
    Finding.length_filter_add_length_filter a.findings t
  have total : a.summary.total = a.findings.length := by
    rw [summed]
    rfl
  have some_below : shown.length < a.findings.length ↔ ¬below = [] := by
    rw [← List.length_eq_zero_iff]
    omega
  have critical : a.summary.hasCritical = true ↔ ∃ f ∈ shown, f.severity = .critical := by
    rw [summed]
    exact Summary.hasCritical_ofFindings a.findings t
  have same : a.atLeast t = shown := rfl
  refine ⟨?_, total, fun v ↦ by rw [summed, Summary.count_ofFindings], ?_, parts, ?_⟩
  · rw [Report.render_false, report, same]
    simp only [List.map_append, Report.map_text_header, Report.map_text_listing,
      Report.map_text_totals, Report.map_text_hidden, Report.map_text_warning, total, some_below,
      critical, ite_not, List.append_assoc]
  · rw [summed]
    exact Summary.count_add_count a.findings
  · intro some
    have lt := some_below.mpr some
    omega

/-- One finding is shown with its snippet, one is hidden. -/
theorem render_report_signer :
    let signer : Finding := {
      weakness := "Missing Signer", severity := .critical, line := some 7
      snippet := "pub fn take() \x7b\r\n>>> send(vault)", description := "Anyone can take"
      explanation := "", recommendation := "Ask for a signer", cwe := some "CWE-862", swc := none }
    let seed : Finding := {
      weakness := "Seed", severity := .low, line := none, snippet := "", description := "Weak seed"
      explanation := "", recommendation := "", cwe := none, swc := none }
    let a : Analysis := {
      findings := [signer, seed], context := ⟨.solana, "rust", some "anchor"⟩
      summary := Summary.ofFindings [signer, seed], codeHash := "" }
    a.summary = Summary.ofFindings a.findings ∧
      (a.findings.filter fun f ↦ Severity.high.rank < f.severity.rank) ≠ [] ∧
      1 ≤ a.findings.length -
        (a.findings.filter fun f ↦ f.severity.rank ≤ Severity.high.rank).length ∧
      Report.render false (a.report .high true) =
        "Blockchain: Solana (rust, anchor)\n" ++
        "Platform: High-performance blockchain with Rust programs " ++
          "(Proof of History consensus, Solana Explorer)\n" ++
        "Critical line 7    Missing Signer: Anyone can take [CWE-862]\n" ++
        "    pub fn take() \x7b\n" ++
        "    >>> send(vault)\n" ++
        "    fix: Ask for a signer\n" ++
        "\nSummary: 2 findings (1 critical, 0 high, 0 medium, 1 low, 0 info), risk Critical, " ++
          "score 72/100\n" ++
        "1 findings below High hidden\n" ++
        "Critical issues present: fix these before deploying.\n" := by
  intro signer seed a
  have some : (a.findings.filter fun f ↦ Severity.high.rank < f.severity.rank) ≠ [] := by
    decide +kernel
  obtain ⟨written, -, -, -, -, counted⟩ := render_report a rfl .high true
  exact ⟨rfl, some, counted some, written.trans (by decide +kernel)⟩

end Analysis

end ContractScan
