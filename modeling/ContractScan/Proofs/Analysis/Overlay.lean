import ContractScan.Proofs.Finding.Hit
import ContractScan.Proofs.Finding.Summary

/-!
# What overlays add

The rules for an EVM chain are those of the base set and, for some chains, those of an overlay
after them. The overlay's findings come on top: without them the report is the same on every chain,
so they can only lower the rating.
-/

namespace ContractScan

/-- A set of rules that are run in addition to those of a base set. -/
def RuleSet.isOverlay : RuleSet → Bool
  | .bscOverlay | .polygonOverlay | .avalancheOverlay => true
  | .evm | .solana => false

namespace Finding

/-- The finding is one that the rule reports, on whatever line. -/
def isOf (f : Finding) (r : Rule) : Bool := f = { r.finding 0 f.snippet with line := f.line }

/-- The finding is one that the rule of an overlay reports. -/
def fromOverlay (f : Finding) : Bool := Rule.catalog.any fun r ↦ r.set.isOverlay && f.isOf r

/-- Leaving out what was added at the end leaves what is reported of the beginning alone. -/
theorem filter_finalize_append {p : Finding → Bool} {a b : List Finding}
    (ha : ∀ f ∈ a, p f = true) (hb : ∀ f ∈ b, p f = false) :
    (finalize (a ++ b)).filter p = finalize a := by
  have kept : (distinct [] a).filter p = distinct [] a :=
    List.filter_eq_self.mpr fun f mem ↦ ha f ((distinct_sublist [] a).mem mem)
  have dropped : (distinct (a.map key ++ []) b).filter p = [] := by
    apply List.filter_eq_nil_iff.mpr
    intro f mem
    rw [hb f ((distinct_sublist _ b).mem mem)]
    exact Bool.false_ne_true
  rw [finalize_eq, finalize_eq, Severity.filter_grouped_comm, distinct_append, List.filter_append,
    kept, dropped, List.append_nil]

end Finding

namespace Rule

/-- The rules of the catalog have different titles. -/
theorem nodup_title_catalog : (catalog.map title).Nodup := by decide +kernel

/-- What a rule reports tells whether it belongs to an overlay. -/
theorem fromOverlay_finding {r : Rule} (mem : r ∈ catalog) (line : Nat) (snippet : String) :
    (r.finding line snippet).fromOverlay = r.set.isOverlay := by
  rw [Finding.fromOverlay, Bool.eq_iff_iff, List.any_eq_true]
  constructor
  · rintro ⟨r', mem', both⟩
    obtain ⟨overlay, same⟩ := Bool.and_eq_true_iff.mp both
    have key := congrArg (fun f ↦ f.key.2) (of_decide_eq_true same)
    have rule : r = r' := List.inj_on_of_nodup_map nodup_title_catalog mem mem' key
    rw [rule]
    exact overlay
  · intro overlay
    exact ⟨r, mem, Bool.and_eq_true_iff.mpr ⟨overlay, decide_eq_true rfl⟩⟩

variable {sets : List RuleSet} {source : String}

/-- What is found with rules of sets that are all overlays or all none comes from such rules. -/
theorem fromOverlay_of_mem_scan {b : Bool} (h : ∀ s ∈ sets, s.isOverlay = b) {f : Finding}
    (found : f ∈ scan (inSets sets) source) : f.fromOverlay = b := by
  rw [scan_eq] at found
  obtain ⟨r, rule, on⟩ := List.mem_flatMap.mp found
  obtain ⟨line, _, rfl⟩ := List.mem_map.mp on
  obtain ⟨s, mem, inSet⟩ := List.mem_flatMap.mp rule
  have set : r.set = s := beq_iff_eq.mp (List.mem_filter.mp inSet).2
  rw [findingOn, fromOverlay_finding (mem_catalog_of_mem_inSets rule), set, h s mem]

/-- Without what overlays find, a scan for an EVM chain is reported like one with the base set. -/
theorem filter_finalize_scan (h : ∀ s ∈ sets, s.isOverlay = true) :
    ((Finding.finalize (scan (inSets (.evm :: sets)) source)).filter fun f ↦ !f.fromOverlay) =
      Finding.finalize (scan (inSets [.evm]) source) := by
  have parts : scan (inSets (.evm :: sets)) source =
      scan (inSets [.evm]) source ++ scan (inSets sets) source := by
    rw [scan_eq, scan_eq, scan_eq, ← List.flatMap_append, inSets, inSets, inSets,
      ← List.flatMap_append]
    rfl
  have base : ∀ s ∈ [RuleSet.evm], s.isOverlay = false := by decide
  rw [parts]
  apply Finding.filter_finalize_append
  · intro f found
    rw [fromOverlay_of_mem_scan base found]
    rfl
  · intro f found
    rw [fromOverlay_of_mem_scan h found]
    rfl

end Rule

/-- On a chain other than Solana the base set comes first and overlays after it. -/
theorem Chain.exists_ruleSets_eq {c : Chain} (h : c ≠ .solana) :
    ∃ overlays, c.ruleSets = .evm :: overlays ∧ ∀ s ∈ overlays, s.isOverlay = true := by
  cases c with
  | solana => exact absurd rfl h
  | ethereum => exact ⟨[], rfl, by decide⟩
  | bsc => exact ⟨[.bscOverlay], rfl, by decide⟩
  | polygon => exact ⟨[.polygonOverlay], rfl, by decide⟩
  | avalanche => exact ⟨[.avalancheOverlay], rfl, by decide⟩
  | fantom => exact ⟨[], rfl, by decide⟩
  | unknown => exact ⟨[], rfl, by decide⟩

/-- No rule for Solana applies on another chain. -/
theorem Chain.solana_not_mem_ruleSets {c : Chain} (h : c ≠ .solana) : .solana ∉ c.ruleSets := by
  obtain ⟨overlays, sets, all⟩ := exists_ruleSets_eq h
  rw [sets, List.mem_cons]
  rintro (base | overlay)
  · cases base
  · exact absurd (all _ overlay) (by decide)

/-- Only its words make a source one for Solana. -/
theorem chain_classify_ne_solana {source : String}
    (noSolana : Context.ofSolanaWords? source = none) (origin : Option String) :
    (classify source origin).chain ≠ .solana := by
  have host (h : String) : ∀ c ∈ Context.ofHost? h, c.chain ≠ .solana := by
    intro c mem
    rw [Context.ofHost?] at mem
    split_ifs at mem <;> cases mem <;> decide
  have words : ∀ c ∈ Context.ofChainWords? source, c.chain ≠ .solana := by
    intro c mem
    rw [Context.ofChainWords?] at mem
    split_ifs at mem <;> cases mem <;> decide
  rw [classify, noSolana, Option.none_or]
  cases eHost : Context.ofHost? (Context.originHost (origin.getD "")) with
  | some c => exact host _ c eHost
  | none =>
    cases eWords : Context.ofChainWords? source with
    | some c => exact words c eWords
    | none => exact Chain.noConfusion

/-- The base rules for EVM chains apply to each source without Solana words. -/
theorem Rule.applies_of_set_eq_evm {r : Rule} {source : String} (rule : r ∈ Rule.catalog)
    (base : r.set = .evm) (noSolana : Context.ofSolanaWords? source = none)
    (origin : Option String) : r ∈ Rule.inSets (classify source origin).chain.ruleSets := by
  obtain ⟨overlays, sets, -⟩ := Chain.exists_ruleSets_eq (chain_classify_ne_solana noSolana origin)
  rw [Rule.mem_inSets, sets, base]
  exact ⟨rule, .head overlays⟩

/-- The report on a source without Solana words, less what overlays find in it, is that of the base
set alone, wherever the source comes from. Against an origin for which the base set alone is run, no
count is lower, the risk is no less grave and the score is no higher. -/
theorem filter_findings_analyze (source : String)
    (noSolana : Context.ofSolanaWords? source = none) :
    (∀ origin origin' : Option String,
      ((analyze source origin).findings.filter fun f ↦ !f.fromOverlay) =
        ((analyze source origin').findings.filter fun f ↦ !f.fromOverlay) ∧
      ((analyze source origin).findings.filter fun f ↦ !f.fromOverlay) =
        Finding.finalize (scan (Rule.inSets [.evm]) source)) ∧
    ∀ base origin : Option String, (classify source base).chain.ruleSets = [.evm] →
      (∀ v, (analyze source base).summary.count v ≤ (analyze source origin).summary.count v) ∧
      (analyze source origin).summary.risk.rank ≤ (analyze source base).summary.risk.rank ∧
      (analyze source origin).summary.score ≤ (analyze source base).summary.score := by
  have alone (origin : Option String) :
      ((analyze source origin).findings.filter fun f ↦ !f.fromOverlay) =
        Finding.finalize (scan (Rule.inSets [.evm]) source) := by
    obtain ⟨overlays, sets, all⟩ :=
      Chain.exists_ruleSets_eq (chain_classify_ne_solana noSolana origin)
    rw [analyze, sets]
    exact Rule.filter_finalize_scan all
  refine ⟨fun origin origin' ↦ ⟨(alone origin).trans (alone origin').symm, alone origin⟩, ?_⟩
  intro base origin sets
  have part : (analyze source base).findings.Sublist (analyze source origin).findings := by
    have fewest : (analyze source base).findings =
        Finding.finalize (scan (Rule.inSets [.evm]) source) := by
      rw [analyze, sets]
    rw [fewest, ← alone origin]
    exact List.filter_sublist
  exact ⟨Summary.count_le_of_sublist part, Summary.risk_le_of_sublist part,
    Summary.score_le_of_sublist part⟩

/-- The time of a block used for finality is reported on Avalanche only, on top of the rest. -/
theorem filter_findings_analyze_avalanche :
    let source := "tx.origin == block.timestamp + finality"
    let onAvalanche := analyze source (some "avalanche")
    Context.ofSolanaWords? source = none ∧
    (classify source none).chain.ruleSets = [.evm] ∧
    (classify source (some "avalanche")).chain.ruleSets = [.evm, .avalancheOverlay] ∧
    (onAvalanche.findings.filter fun f ↦ !f.fromOverlay) =
      Finding.finalize (scan (Rule.inSets [.evm]) source) ∧
    (∀ v, (analyze source none).summary.count v ≤ onAvalanche.summary.count v) ∧
    onAvalanche.summary.risk.rank ≤ (analyze source none).summary.risk.rank ∧
    onAvalanche.summary.score ≤ (analyze source none).summary.score := by
  intro source onAvalanche
  have noSolana : Context.ofSolanaWords? source = none := by decide +kernel
  have base : (classify source none).chain.ruleSets = [.evm] := by decide +kernel
  have overlay : (classify source (some "avalanche")).chain.ruleSets = [.evm, .avalancheOverlay] :=
    by decide +kernel
  obtain ⟨same, more⟩ := filter_findings_analyze source noSolana
  exact ⟨noSolana, base, overlay, (same (some "avalanche") none).2,
    more none (some "avalanche") base⟩

end ContractScan
