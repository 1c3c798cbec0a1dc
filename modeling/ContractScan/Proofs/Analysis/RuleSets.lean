import ContractScan.Proofs.Analysis.Overlay
import ContractScan.Proofs.Finding.Quotation
import ContractScan.Proofs.Finding.Truncation

/-!
# Lists of rule sets

What is reported of a scan depends on which sets are run. Their order decides only which of the
findings of one severity come first, and to run a set once more changes nothing
(`finalize_scan_inSets`). Both rest on the catalog: rules of any two sets differ in the weakness or
in the beginning of the description, so that no finding is taken for one of another rule.
-/

namespace ContractScan

namespace Finding

variable {a b : List Finding}

/-- Where keys tell findings apart, each finding is reported. -/
theorem mem_finalize_iff (apart : ∀ f ∈ a, ∀ g ∈ a, f.key = g.key → f = g) (f : Finding) :
    f ∈ finalize a ↔ f ∈ a := by
  rw [(finalize_perm a).mem_iff]
  constructor
  · exact (distinct_sublist [] a).mem
  · intro mem
    have known : f.key ∈ (distinct [] a).map key :=
      (mem_map_key_distinct [] a f.key).mpr ⟨List.mem_map_of_mem mem, List.not_mem_nil⟩
    obtain ⟨g, kept, same⟩ := List.mem_map.mp known
    exact apart g ((distinct_sublist [] a).mem kept) f mem same ▸ kept

/-- Where keys tell findings apart, it is the findings that decide what is reported, not how often
and in which order they were found. -/
theorem finalize_perm_finalize (apart : ∀ f ∈ a, ∀ g ∈ a, f.key = g.key → f = g)
    (same : ∀ f, f ∈ a ↔ f ∈ b) : (finalize a).Perm (finalize b) := by
  have apart' : ∀ f ∈ b, ∀ g ∈ b, f.key = g.key → f = g :=
    fun f hf g hg ↦ apart f ((same f).mpr hf) g ((same g).mpr hg)
  have once (raw : List Finding) : (finalize raw).Nodup :=
    List.Nodup.of_map key (nodup_map_key_finalize raw)
  apply (List.perm_ext_iff_of_nodup (once a) (once b)).mpr
  intro f
  rw [mem_finalize_iff apart, mem_finalize_iff apart', same]

/-- Findings with keys that are borne before are not reported. -/
theorem finalize_append_of_keys (known : ∀ f ∈ b, f.key ∈ a.map key) :
    finalize (a ++ b) = finalize a := by
  have none : distinct (a.map key ++ []) b = [] := by
    apply List.map_eq_nil_iff.mp
    apply List.eq_nil_iff_forall_not_mem.mpr
    intro k mem
    obtain ⟨later, fresh⟩ := (mem_map_key_distinct _ b k).mp mem
    obtain ⟨f, hf, rfl⟩ := List.mem_map.mp later
    exact fresh (List.mem_append_left [] (known f hf))
  rw [finalize_eq, distinct_append, none, List.append_nil, ← finalize_eq]

/-- Reports that are rearrangements of each other have the severities in one order. -/
theorem map_severity_finalize_of_perm (same : (finalize a).Perm (finalize b)) :
    (finalize a).map severity = (finalize b).map severity := by
  have graver (raw : List Finding) :
      ((finalize raw).map severity).Pairwise fun v w ↦ v.rank ≤ w.rank :=
    List.pairwise_map.mpr (pairwise_finalize raw)
  apply (same.map severity).eq_of_pairwise _ (graver a) (graver b)
  intro v w _ _ le ge
  exact Severity.rank_inj.mp (Nat.le_antisymm le ge)

end Finding

namespace Rule

variable {sets sets' : List RuleSet} {source : String} {f g : Finding}

theorem mem_scan_inSets : f ∈ scan (inSets sets) source ↔
    ∃ r ∈ catalog, r.set ∈ sets ∧ ∃ line ∈ r.linesIn source, r.findingOn source line = f := by
  simp only [scan_eq, List.mem_flatMap, List.mem_map, mem_inSets, and_assoc]

/-- Lists that name the same sets find the same. -/
theorem mem_scan_inSets_congr (same : ∀ s, s ∈ sets ↔ s ∈ sets') (f : Finding) :
    f ∈ scan (inSets sets) source ↔ f ∈ scan (inSets sets') source := by
  simp only [mem_scan_inSets, same]

/-- The key of a finding tells the rule and the line, and so the whole finding. -/
theorem eq_of_key_of_mem_scan (hf : f ∈ scan (inSets sets) source)
    (hg : g ∈ scan (inSets sets) source) (same : f.key = g.key) : f = g := by
  rw [← Hit.map_finding_ofMatches] at hf hg
  obtain ⟨m, hm, rfl⟩ := List.mem_map.mp hf
  obtain ⟨n, hn, rfl⟩ := List.mem_map.mp hg
  apply congrArg
  exact Hit.eq_of_key_finding nodup_title_catalog
    (mem_catalog_of_mem_inSets (Hit.mem_ofMatches.mp hm).1)
    (mem_catalog_of_mem_inSets (Hit.mem_ofMatches.mp hn).1) same

/-- Each line on which a rule of the sets has a match is reported. -/
theorem findingOn_mem_finalize_scan {r : Rule} {line : Nat} (rule : r ∈ catalog)
    (inSet : r.set ∈ sets) (on : line ∈ r.linesIn source) :
    r.findingOn source line ∈ Finding.finalize (scan (inSets sets) source) := by
  apply (Finding.mem_finalize_iff (fun _ hf _ hg ↦ eq_of_key_of_mem_scan hf hg) _).mpr
  exact mem_scan_inSets.mpr ⟨r, rule, inSet, line, on, rfl⟩

theorem scan_inSets_append (sets more : List RuleSet) (source : String) :
    scan (inSets (sets ++ more)) source =
      scan (inSets sets) source ++ scan (inSets more) source := by
  rw [inSets, List.flatMap_append, scan_append, ← inSets, ← inSets]

end Rule

/-- Lists that name the same rule sets, in whatever order and however often, lead to reports with the
same findings and the same summary. To name a set once more at the end changes nothing at all. -/
theorem finalize_scan_inSets (source : String) :
    let report (sets : List RuleSet) := Finding.finalize (scan (Rule.inSets sets) source)
    (∀ sets sets' : List RuleSet, (∀ s, s ∈ sets ↔ s ∈ sets') →
      (report sets).Perm (report sets') ∧
        Summary.ofFindings (report sets) = Summary.ofFindings (report sets')) ∧
    ∀ (sets : List RuleSet), ∀ s ∈ sets, report (sets ++ [s]) = report sets := by
  intro report
  constructor
  · intro sets sets' same
    have perm : (report sets).Perm (report sets') :=
      Finding.finalize_perm_finalize (fun _ hf _ hg ↦ Rule.eq_of_key_of_mem_scan hf hg)
        (Rule.mem_scan_inSets_congr same)
    exact ⟨perm, Summary.ofFindings_congr (Finding.map_severity_finalize_of_perm perm)⟩
  · intro sets s named
    change Finding.finalize (scan (Rule.inSets (sets ++ [s])) source) = report sets
    rw [Rule.scan_inSets_append]
    apply Finding.finalize_append_of_keys
    intro f found
    -- what the set finds, it has found before
    obtain ⟨r, rule, inSet, on⟩ := Rule.mem_scan_inSets.mp found
    have before : r.set ∈ sets := List.mem_singleton.mp inSet ▸ named
    exact List.mem_map_of_mem (Rule.mem_scan_inSets.mpr ⟨r, rule, before, on⟩)

/-- Rules of two sets report one weakness on one line, in whatever order the sets are run. -/
theorem finalize_scan_inSets_accounts :
    let source := "function f()public ctx.accounts..key"
    let report (sets : List RuleSet) := Finding.finalize (scan (Rule.inSets sets) source)
    let exposed := Rule.Evm.accessControl.findingOn source 1
    let unsigned := Rule.Solana.missingSignerCheck.findingOn source 1
    exposed.weakness = unsigned.weakness ∧
    exposed ∈ report [.evm, .solana] ∧ unsigned ∈ report [.evm, .solana] ∧
    (report [.evm, .solana]).Perm (report [.solana, .evm, .solana]) ∧
    Summary.ofFindings (report [.evm, .solana]) =
      Summary.ofFindings (report [.solana, .evm, .solana]) ∧
    report ([.evm, .solana] ++ [.evm]) = report [.evm, .solana] := by
  intro source report exposed unsigned
  have same : ∀ s, s ∈ [RuleSet.evm, .solana] ↔ s ∈ [RuleSet.solana, .evm, .solana] := by
    intro s
    cases s <;> decide
  obtain ⟨perm, again⟩ := finalize_scan_inSets source
  obtain ⟨rearranged, summary⟩ := perm _ _ same
  have guard : Rule.Evm.accessControl ∈ Rule.catalog :=
    List.mem_append_left _ (List.mem_append_left _ (.tail _ (.tail _ (.tail _ (.head _)))))
  have signer : Rule.Solana.missingSignerCheck ∈ Rule.catalog :=
    List.mem_append_left _ (List.mem_append_right _ (.head _))
  have lines : Rule.Evm.accessControl.linesIn source = [1] ∧
      Rule.Solana.missingSignerCheck.linesIn source = [1] := by decide +kernel
  refine ⟨rfl, ?_, ?_, rearranged, summary, again _ _ (.head _)⟩
  · exact Rule.findingOn_mem_finalize_scan guard (.head _) (lines.1 ▸ .head _)
  · exact Rule.findingOn_mem_finalize_scan signer (.tail _ (.head _)) (lines.2 ▸ .head _)

end ContractScan
