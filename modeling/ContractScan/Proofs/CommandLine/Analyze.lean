import ContractScan.Proofs.CommandLine.World
import ContractScan.Proofs.Finding.Finalize
import ContractScan.Proofs.Finding.Summary
import Mathlib.Data.List.Basic

/-!
# Analysing a file from the command line

A run that analyses a file ends without a failure when the settings can be loaded and the file can
be read (`run_start_analyze`). Its status depends on the findings and on the gate alone
(`status_start_analyze`). A threshold for findings counts in reports, but not in JSON
(`output_start_analyze`).
-/

namespace ContractScan

/-- Nothing is grave enough only if there is nothing or the risk is not. -/
theorem Finding.atLeast_eq_nil_iff (fs : List Finding) (t : Severity) :
    atLeast t fs = [] ↔ fs = [] ∨ (Summary.ofFindings fs).risk.meets t = false := by
  have risk : (Summary.ofFindings fs).risk.meets t = true ↔
      Severity.info.rank ≤ t.rank ∨ ∃ f ∈ fs, f.severity.meets t = true := by
    simp only [Severity.meets, decide_eq_true_eq]
    exact Summary.rank_risk_le fs t.rank
  have some : atLeast t fs = [] ↔ ¬∃ f ∈ fs, f.severity.meets t = true := by
    simp only [atLeast, List.filter_eq_nil_iff, not_exists, not_and]
  rw [some, ← Bool.not_eq_true, risk]
  constructor
  · intro none
    cases fs with
    | nil => exact .inl rfl
    | cons f fs =>
      refine .inr (not_or.mpr ⟨fun all ↦ none ⟨f, .head fs, ?_⟩, none⟩)
      -- a threshold that is informational or less is met by any finding
      have le : f.severity.rank ≤ Severity.info.rank := by cases f.severity <;> decide
      exact decide_eq_true (Nat.le_trans le all)
  · rintro (rfl | neither)
    · rintro ⟨f, mem, -⟩
      cases mem
    · exact fun met ↦ neither (.inr met)

namespace Analysis

/-- The findings of an analysis come in order of gravity. -/
theorem pairwise_findings_analyze (source : String) (origin : Option String) :
    (analyze source origin).findings.Pairwise fun f g ↦ f.severity.rank ≤ g.severity.rank :=
  Finding.pairwise_finalize _

end Analysis

namespace Rule

theorem checked_catalog : checked catalog = .ok catalog := by
  have once : duplicateId? [] catalog = none := rfl
  rw [checked, once]

end Rule

namespace CommandLine

variable {w : World} {env : Surroundings} {i : Invocation} {s : Settings} {args : List String}
  {file source : String} {origin : Option String} {minSeverity failOn : Option Severity}

/-- A run ends as its command does once the settings are loaded. -/
theorem run_of_finds {o : Outcome} (loaded : w.Finds (loadSettings env.folder i.config) (.ok s))
    (done : w.Finds (runCommand env i s Rule.catalog) (.ok o)) : w.run (run env i) = (o, w) := by
  have rules : w.Finds (Task.ofExcept .rules (Rule.checked Rule.catalog)) (.ok Rule.catalog) := by
    rw [Rule.checked_catalog]
    exact w.finds_ofExcept RunError.rules (.ok Rule.catalog)
  refine (World.run_bind w _ _).trans ?_
  rw [loaded.bind (rules.bind done)]
  rfl

/-- The outcome of an analysis: a report of the findings that are grave enough, or JSON, or nothing
but the status. -/
def analyzeOutcome (env : Surroundings) (i : Invocation) (time : String) (a : Analysis)
    (threshold : Severity) (failOn : Option Severity) : Outcome where
  status := if failOn.any fun gate ↦ !(a.atLeast gate).isEmpty then findingsStatus else 0
  output :=
    if i.json then printed (a.toJsonAt time)
    else if i.quiet then ""
    else Report.render env.color (a.report threshold true)

theorem finds_runAnalyze (env : Surroundings) (i : Invocation) (s : Settings)
    (readable : w.files.read file = .ok source) (origin : Option String)
    (minSeverity failOn : Option Severity) :
    w.Finds (runAnalyze env i s file origin minSeverity failOn)
      (.ok (analyzeOutcome env i w.time (analyze source origin)
        (minSeverity.getD s.report.minSeverity) failOn)) := by
  have found : w.Finds (Task.read file) (.ok source) := by
    have found := w.finds_read file
    rwa [readable] at found
  refine found.bind ?_
  rw [analyzeOutcome]
  cases i.json with
  | true => exact (w.finds_time.bind (w.finds_pure _)).bind (w.finds_pure _)
  | false =>
    cases i.quiet with
    | true => exact (w.finds_pure _).bind (w.finds_pure _)
    | false => exact (w.finds_pure _).bind (w.finds_pure _)

/-- A call to analyse a file leads to its analysis and leaves the world as it is. -/
theorem run_start_analyze (env : Surroundings) (parsed : Invocation.parse args = .ok i)
    (command : i.command = .analyze file origin minSeverity failOn)
    (loadable : (w.run (loadSettings env.folder i.config).run).1 = .ok s)
    (readable : w.files.read file = .ok source) :
    w.run (start env args) = (analyzeOutcome env i w.time (analyze source origin)
      (minSeverity.getD s.report.minSeverity) failOn, w) := by
  obtain ⟨r, loaded⟩ := w.exists_finds_loadSettings env.folder i.config
  have same : r = .ok s := by rwa [loaded] at loadable
  subst same
  rw [start, parsed]
  apply run_of_finds loaded
  rw [runCommand, command]
  exact finds_runAnalyze env i s readable origin minSeverity failOn

/-- The status of an analysis tells whether there are findings whose risk meets the gate. -/
theorem status_analyzeOutcome (env : Surroundings) (i : Invocation) (time source : String)
    (origin : Option String) (threshold : Severity) (failOn : Option Severity) :
    let a := analyze source origin
    (analyzeOutcome env i time a threshold failOn).status =
      if ∃ gate ∈ failOn, a.findings ≠ [] ∧ a.summary.risk.meets gate = true
      then findingsStatus else 0 := by
  intro a
  have grave (gate : Severity) : (!(a.atLeast gate).isEmpty) = true ↔
      a.findings ≠ [] ∧ a.summary.risk.meets gate = true := by
    rw [Bool.not_eq_true', ← Bool.not_eq_true, List.isEmpty_iff, Analysis.atLeast,
      Finding.atLeast_eq_nil_iff, not_or, Bool.not_eq_false]
    rfl
  cases failOn with
  | none => simp [analyzeOutcome]
  | some gate => simp [analyzeOutcome, grave]

/-- A call to analyse a file fails if one of the findings meets the gate. -/
theorem status_start_of_mem_findings (env : Surroundings) {gate : Severity} {f : Finding}
    (mem : f ∈ (analyze source origin).findings) (grave : f.severity.meets gate = true)
    (parsed : Invocation.parse args = .ok i)
    (command : i.command = .analyze file origin minSeverity (some gate))
    (loadable : (w.run (loadSettings env.folder i.config).run).1 = .ok s)
    (readable : w.files.read file = .ok source) :
    (w.run (start env args)).1.status = findingsStatus := by
  have shown : f ∈ (analyze source origin).atLeast gate := List.mem_filter.mpr ⟨mem, grave⟩
  have some : ((analyze source origin).atLeast gate).isEmpty = false :=
    List.isEmpty_eq_false_iff.mpr (List.ne_nil_of_mem shown)
  rw [run_start_analyze env parsed command loadable readable]
  simp [analyzeOutcome, some]

/-- A call to analyse a readable file ends with status 2 if a gate is given and there are findings
whose risk meets it, and else with status 0, whatever the other switches, the settings and the
surroundings are. The findings that meet a threshold come first, and there are none exactly if there
are no findings or the risk does not meet it. -/
theorem status_start_analyze (env : Surroundings) (parsed : Invocation.parse args = .ok i)
    (command : i.command = .analyze file origin minSeverity failOn)
    (loadable : (w.run (loadSettings env.folder i.config).run).1 = .ok s)
    (readable : w.files.read file = .ok source) :
    let a := analyze source origin
    let status := (w.run (start env args)).1.status
    (status = 2 ↔ ∃ gate, failOn = some gate ∧ a.findings ≠ [] ∧
      a.summary.risk.meets gate = true) ∧
    (status ≠ 2 → status = 0) ∧
    (∀ (w' : World) (env' : Surroundings) (args' : List String) (i' : Invocation) (s' : Settings)
        (file' : String) (minSeverity' : Option Severity),
      Invocation.parse args' = .ok i' →
      i'.command = .analyze file' origin minSeverity' failOn →
      (w'.run (loadSettings env'.folder i'.config).run).1 = .ok s' →
      w'.files.read file' = .ok source →
      (w'.run (start env' args')).1.status = status) ∧
    ∀ t, a.atLeast t <+: a.findings ∧
      (a.atLeast t = [] ↔ a.findings = [] ∨ a.summary.risk.meets t = false) := by
  intro a status
  have told : status = if ∃ gate ∈ failOn, a.findings ≠ [] ∧ a.summary.risk.meets gate = true
      then findingsStatus else 0 := by
    rw [← status_analyzeOutcome env i w.time source origin (minSeverity.getD s.report.minSeverity)]
    exact congrArg (·.1.status) (run_start_analyze env parsed command loadable readable)
  refine ⟨?_, ?_, ?_, ?_⟩
  · rw [told, findingsStatus]
    split
    next grave => exact ⟨fun _ ↦ grave, fun _ ↦ rfl⟩
    next not => exact ⟨nofun, fun grave ↦ absurd grave not⟩
  · intro ne
    rw [told] at ne ⊢
    split at ne
    next => exact absurd rfl ne
    next not => exact if_neg not
  · intro w' env' args' i' s' file' minSeverity' parsed' command' loadable' readable'
    rw [run_start_analyze env' parsed' command' loadable' readable', told]
    exact status_analyzeOutcome env' i' w'.time source origin _ failOn
  · intro t
    exact ⟨Severity.filter_prefix_of_pairwise _ (Analysis.pairwise_findings_analyze source origin) t,
      Finding.atLeast_eq_nil_iff a.findings t⟩

/-- A source with one finding, which is of medium severity. -/
def walletSource : String := "require(tx.origin == owner);"

/-- The source in a file and settings in another, in a world without variables. -/
def walletWorld : World where
  files := { files := [
    (["Wallet.sol"], walletSource.toUTF8),
    (["strict.toml"], "[analysis]\nmin_severity = \"Critical\"".toUTF8)] }
  environment _ := none
  time := "2026-01-01T00:00:00Z"
  reply _ := .error .tooManyRequests

theorem read_wallet : walletWorld.files.read "Wallet.sol" = .ok walletSource := by decide +kernel

theorem settings_wallet :
    (walletWorld.run (loadSettings none none).run).1 = .ok Settings.standard := rfl

theorem strictSettings_wallet :
    (walletWorld.run (loadSettings none (some "strict.toml")).run).1 =
      .ok { Settings.standard with report := ⟨.critical⟩ } := by decide +kernel

theorem severity_wallet : (analyze walletSource none).findings.map Finding.severity = [.medium] := by
  decide +kernel

/-- A gate is met in JSON, and as well without any output and under stricter settings. -/
theorem status_start_analyze_wallet :
    let env : Surroundings := ⟨none, false⟩
    let openly := ["analyze", "Wallet.sol", "--fail-on", "medium", "--json"]
    let silently := ["-qc", "strict.toml", "analyze", "--fail-on=medium", "Wallet.sol"]
    (walletWorld.run (start env openly)).1.status = 2 ∧
      (walletWorld.run (start env silently)).1.status = 2 := by
  intro env openly silently
  have opened : Invocation.parse openly =
      .ok ⟨none, 0, false, true, .analyze "Wallet.sol" none none (some .medium)⟩ := rfl
  have silenced : Invocation.parse silently =
      .ok ⟨some "strict.toml", 0, true, false, .analyze "Wallet.sol" none none (some .medium)⟩ :=
    rfl
  have found : (analyze walletSource none).findings ≠ [] := by
    intro none
    have severity := severity_wallet
    rw [none] at severity
    cases severity
  have risk : (analyze walletSource none).summary.risk = .medium :=
    congrArg (List.foldl Summary.graver .info) severity_wallet
  obtain ⟨gated, -, same, -⟩ :=
    status_start_analyze env opened rfl settings_wallet read_wallet
  have status := gated.mpr ⟨.medium, rfl, found, by rw [risk]; decide⟩
  have silent := same walletWorld env silently _ _ "Wallet.sol" none silenced rfl
    strictSettings_wallet read_wallet
  exact ⟨status, silent.trans status⟩

/-- JSON holds all findings of an analysis, whatever the threshold, which is given with the call or
by the settings; the report lists those that meet it. So both show the same findings exactly if all
meet the threshold. -/
theorem output_start_analyze (env : Surroundings) (parsed : Invocation.parse args = .ok i)
    (command : i.command = .analyze file origin minSeverity failOn)
    (loadable : (w.run (loadSettings env.folder i.config).run).1 = .ok s)
    (readable : w.files.read file = .ok source) :
    let a := analyze source origin
    let threshold := minSeverity.getD s.report.minSeverity
    let shown := a.findings.filter fun f ↦ f.severity.meets threshold
    let output := (w.run (start env args)).1.output
    (i.json = true → output = printed (a.toJsonAt w.time) ∧
      (a.toJsonAt w.time).get? "findings" = some (.array (a.findings.map Finding.toJson))) ∧
    (i.json = false → i.quiet = false → output = Report.render env.color
      (Report.header a.context ++ Report.listing true shown ++ Report.totals a.summary ++
        Report.hidden a.summary.total shown.length threshold ++ Report.warning a.summary)) ∧
    (shown = a.findings ↔ ∀ f ∈ a.findings, f.severity.meets threshold = true) := by
  intro a threshold shown output
  have told : output = (analyzeOutcome env i w.time a threshold failOn).output :=
    congrArg (·.1.output) (run_start_analyze env parsed command loadable readable)
  refine ⟨fun json ↦ ⟨?_, rfl⟩, fun json quiet ↦ ?_, List.filter_eq_self⟩
  · rw [told, analyzeOutcome, json]
    rfl
  · rw [told, analyzeOutcome, json, quiet]
    rfl

/-- Stricter settings leave a finding out of the report. -/
theorem output_start_analyze_strict :
    let a := analyze walletSource none
    let args := ["-c", "strict.toml", "analyze", "Wallet.sol"]
    (walletWorld.run (start ⟨none, false⟩ args)).1.output = Report.render false
      (Report.header a.context ++ Report.listing true (a.atLeast .critical) ++
        Report.totals a.summary ++
        Report.hidden a.summary.total (a.atLeast .critical).length .critical ++
        Report.warning a.summary) ∧
      a.atLeast .critical ≠ a.findings := by
  intro a args
  have parsed : Invocation.parse args =
      .ok ⟨some "strict.toml", 0, false, false, .analyze "Wallet.sol" none none none⟩ := rfl
  obtain ⟨-, report, all⟩ :=
    output_start_analyze ⟨none, false⟩ parsed rfl strictSettings_wallet read_wallet
  refine ⟨report rfl rfl, fun same ↦ ?_⟩
  have grave : ∀ v ∈ a.findings.map Finding.severity, v.meets .critical = true :=
    List.forall_mem_map.mpr (all.mp same)
  rw [severity_wallet] at grave
  exact absurd (grave .medium (.head _)) (by decide)

/-- With the same threshold JSON holds a finding that the report leaves out. -/
theorem output_start_analyze_unfiltered :
    let a := analyze walletSource none
    let output (args : List String) := (walletWorld.run (start ⟨none, false⟩ args)).1.output
    output ["analyze", "Wallet.sol", "--min-severity", "high", "--json"] =
        printed (a.toJsonAt walletWorld.time) ∧
      (a.toJsonAt walletWorld.time).get? "findings" =
        some (.array (a.findings.map Finding.toJson)) ∧
      output ["analyze", "Wallet.sol", "--min-severity", "high"] =
        Report.render false (a.report .high true) ∧
      a.findings.map Finding.severity = [.medium] ∧ a.atLeast .high = [] := by
  intro a output
  have asJson : Invocation.parse ["analyze", "Wallet.sol", "--min-severity", "high", "--json"] =
      .ok ⟨none, 0, false, true, .analyze "Wallet.sol" none (some .high) none⟩ := rfl
  have asReport : Invocation.parse ["analyze", "Wallet.sol", "--min-severity", "high"] =
      .ok ⟨none, 0, false, false, .analyze "Wallet.sol" none (some .high) none⟩ := rfl
  refine ⟨?_, rfl, ?_, severity_wallet, ?_⟩
  · exact congrArg (·.1.output)
      (run_start_analyze ⟨none, false⟩ asJson rfl settings_wallet read_wallet)
  · exact congrArg (·.1.output)
      (run_start_analyze ⟨none, false⟩ asReport rfl settings_wallet read_wallet)
  · obtain ⟨f, alone, medium⟩ := List.map_eq_singleton_iff.mp severity_wallet
    simp [a, Analysis.atLeast, Finding.atLeast, alone, medium, Severity.meets, Severity.rank]

end CommandLine

end ContractScan
