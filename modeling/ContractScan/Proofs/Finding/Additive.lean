import ContractScan.Proofs.Finding.Summary
import Mathlib.Algebra.GroupWithZero.Nat
import Mathlib.Data.List.Perm.Subperm
import Mathlib.Data.List.Sort
import Mathlib.Order.MinMax

/-!
# Summaries add up

The summary of two lists, one after the other, is told by the summaries of both
(`ofFindings_append`), and the order of the findings does not count (`ofFindings_eq_of_perm`). What
is stored are the severities that occur, each once, with how often it does (`mem_counts_iff`).
-/

namespace ContractScan.Summary

variable {fs gs : List Finding} {counts : List (Severity × Nat)}

/-- What holds of no counts, and still when one more is counted, holds of the counts of any
findings. -/
theorem counts_induction {P : List (Severity × Nat) → Prop} (none : P [])
    (more : ∀ counts s, P counts → P (tally s counts)) (fs : List Finding) :
    P (ofFindings fs).counts := by
  have kept (start : List (Severity × Nat)) (h : P start) :
      P (fs.foldl (fun counts f ↦ tally f.severity counts) start) := by
    induction fs generalizing start with
    | nil => exact h
    | cons f fs ih => exact ih _ (more start f.severity h)
  exact kept [] none

/-- The counts are in the order of gravity. -/
theorem ordered_counts (fs : List Finding) : Ordered (ofFindings fs).counts :=
  counts_induction (P := Ordered) List.Pairwise.nil (fun _ s h ↦ ordered_tally h s) fs

theorem pos_of_mem_tally (h : ∀ e ∈ counts, 0 < e.2) (s : Severity) :
    ∀ e ∈ tally s counts, 0 < e.2 := by
  induction counts with
  | nil =>
    intro e mem
    rw [List.mem_singleton.mp mem]
    exact Nat.one_pos
  | cons c rest ih =>
    obtain ⟨first, later⟩ := List.forall_mem_cons.mp h
    rw [tally]
    split
    · exact List.forall_mem_cons.mpr ⟨Nat.succ_pos _, later⟩
    · split
      · exact List.forall_mem_cons.mpr ⟨Nat.one_pos, h⟩
      · exact List.forall_mem_cons.mpr ⟨first, ih later⟩

/-- A severity is not stored unless it occurs. -/
theorem pos_of_mem_counts {e : Severity × Nat} (mem : e ∈ (ofFindings fs).counts) : 0 < e.2 :=
  counts_induction (P := fun counts ↦ ∀ e ∈ counts, 0 < e.2) (fun _ ↦ nofun)
    (fun _ s h ↦ pos_of_mem_tally h s) fs e mem

theorem lookup_of_mem (h : Ordered counts) {v : Severity} {n : Nat} (mem : (v, n) ∈ counts) :
    counts.lookup v = some n := by
  obtain ⟨before, after, rfl⟩ := List.append_of_mem mem
  refine List.lookup_eq_some_iff.mpr ⟨before, after, rfl, fun e early ↦ bne_iff_ne.mpr ?_⟩
  rintro rfl
  rw [Ordered, List.map_append] at h
  have lt := (List.pairwise_append.mp h).2.2 _ (List.mem_map_of_mem early) _ (.head _)
  exact Nat.lt_irrefl _ lt

/-- The severities that occur are stored, with how often they do, and no others. -/
theorem mem_counts_iff {v : Severity} {n : Nat} :
    (v, n) ∈ (ofFindings fs).counts ↔ n = (fs.countP fun f ↦ v = f.severity) ∧ 0 < n := by
  rw [← count_ofFindings]
  constructor
  · intro mem
    refine ⟨?_, pos_of_mem_counts mem⟩
    rw [count, lookup_of_mem (ordered_counts fs) mem]
    rfl
  · rintro ⟨rfl, pos⟩
    rw [count] at pos ⊢
    cases found : (ofFindings fs).counts.lookup v with
    | none =>
      rw [found] at pos
      exact absurd pos (Nat.lt_irrefl 0)
    | some n =>
      obtain ⟨before, after, whole, -⟩ := List.lookup_eq_some_iff.mp found
      rw [whole]
      exact List.mem_append_right before (.head after)

theorem sum_tally (s : Severity) :
    ((tally s counts).map Prod.snd).sum = (counts.map Prod.snd).sum + 1 := by
  induction counts with
  | nil => rfl
  | cons c rest ih =>
    rw [tally]
    split
    · simp only [List.map_cons, List.sum_cons]
      omega
    · split
      · simp only [List.map_cons, List.sum_cons]
        omega
      · simp only [List.map_cons, List.sum_cons, ih]
        omega

/-- The counts add up to the number of findings. -/
theorem sum_counts (fs : List Finding) :
    ((ofFindings fs).counts.map Prod.snd).sum = fs.length := by
  have added (start : List (Severity × Nat)) :
      ((fs.foldl (fun counts f ↦ tally f.severity counts) start).map Prod.snd).sum =
        (start.map Prod.snd).sum + fs.length := by
    induction fs generalizing start with
    | nil => rfl
    | cons f fs ih =>
      rw [List.foldl_cons, ih, sum_tally, List.length_cons]
      omega
  rw [ofFindings, added]
  exact Nat.zero_add _

/-- The graver risk of two lists is that of both. -/
theorem rank_risk_append (fs gs : List Finding) :
    (ofFindings (fs ++ gs)).risk.rank =
      min (ofFindings fs).risk.rank (ofFindings gs).risk.rank := by
  refine eq_of_forall_ge_iff fun k ↦ ?_
  simp only [min_le_iff, rank_risk_le, List.mem_append, or_and_right, exists_or]
  exact or_or_distrib_left

/-- The counts of two lists add up. -/
theorem count_append (fs gs : List Finding) (v : Severity) :
    (ofFindings (fs ++ gs)).count v = (ofFindings fs).count v + (ofFindings gs).count v := by
  simp only [count_ofFindings, List.countP_append]

/-- A sum over findings that depends on their severities only is told by the counts. -/
theorem sum_map_severity (w : Severity → Nat) (fs : List Finding) :
    (fs.map fun f ↦ w f.severity).sum =
      w .critical * (ofFindings fs).count .critical + w .high * (ofFindings fs).count .high +
        w .medium * (ofFindings fs).count .medium + w .low * (ofFindings fs).count .low +
        w .info * (ofFindings fs).count .info := by
  simp only [count_ofFindings]
  induction fs with
  | nil => rfl
  | cons f fs ih =>
    rw [List.map_cons, List.sum_cons, ih]
    simp only [List.countP_cons, Nat.mul_add]
    cases f.severity <;> simp <;> omega

/-- The counts of the five severities add up to the number of findings. -/
theorem count_add_count (fs : List Finding) :
    (ofFindings fs).count .critical + (ofFindings fs).count .high + (ofFindings fs).count .medium +
      (ofFindings fs).count .low + (ofFindings fs).count .info = fs.length := by
  have each := sum_map_severity (fun _ ↦ 1) fs
  rw [List.map_const', List.sum_replicate_nat] at each
  omega

/-- The penalty is what the findings of each severity cost together. -/
theorem penalty_eq (fs : List Finding) :
    penalty fs = 25 * (ofFindings fs).count .critical + 15 * (ofFindings fs).count .high +
      8 * (ofFindings fs).count .medium + 3 * (ofFindings fs).count .low +
      (ofFindings fs).count .info := by
  have each : penalty fs = (fs.map fun f ↦ f.severity.penalty).sum := by
    induction fs with
    | nil => rfl
    | cons f fs ih => rw [penalty_cons, ih, List.map_cons, List.sum_cons]
  rw [each, sum_map_severity]
  simp only [Severity.penalty, Nat.one_mul]

theorem penalty_append (fs gs : List Finding) : penalty (fs ++ gs) = penalty fs + penalty gs := by
  simp only [penalty_eq, count_append]
  omega

/-- Counts in the order of gravity are told by what is stored. -/
theorem Ordered.ext {others : List (Severity × Nat)} (h : Ordered counts) (h' : Ordered others)
    (same : ∀ e, e ∈ counts ↔ e ∈ others) : counts = others := by
  have irrefl : Std.Irrefl fun e e' : Severity × Nat ↦ e.1.rank < e'.1.rank :=
    ⟨fun e ↦ Nat.lt_irrefl e.1.rank⟩
  have antisymm : Std.Antisymm fun e e' : Severity × Nat ↦ e.1.rank < e'.1.rank :=
    ⟨fun e e' lt gt ↦ absurd gt (Nat.lt_asymm lt)⟩
  have entries {c : List (Severity × Nat)} (h : Ordered c) :
      c.Pairwise fun e e' ↦ e.1.rank < e'.1.rank := by
    rwa [Ordered, List.pairwise_map] at h
  exact (entries h).eq_of_mem_iff (entries h') same

/-- The order of the findings does not count. -/
theorem ofFindings_eq_of_perm (h : fs.Perm gs) : ofFindings fs = ofFindings gs := by
  have same (v : Severity) : (ofFindings fs).count v = (ofFindings gs).count v := by
    rw [count_ofFindings, count_ofFindings, h.countP_eq]
  have counts : (ofFindings fs).counts = (ofFindings gs).counts := by
    refine (ordered_counts fs).ext (ordered_counts gs) fun e ↦ ?_
    rw [mem_counts_iff, mem_counts_iff, h.countP_eq]
  have risk : (ofFindings fs).risk = (ofFindings gs).risk := by
    refine Severity.rank_inj.mp (eq_of_forall_ge_iff fun k ↦ ?_)
    simp only [rank_risk_le, h.mem_iff]
  have score : (ofFindings fs).score = (ofFindings gs).score := by
    rw [ofFindings, ofFindings, penalty_eq, penalty_eq]
    simp only [same]
  exact (Summary.mk.injEq ..).mpr ⟨h.length_eq, counts, risk, score⟩

/-- With more findings, wherever they come, the score is no higher. -/
theorem score_le_of_subperm (h : fs.Subperm gs) :
    (ofFindings gs).score ≤ (ofFindings fs).score := by
  obtain ⟨part, perm, within⟩ := h
  rw [← ofFindings_eq_of_perm perm]
  exact score_le_of_sublist within

/-- The summary of two lists of findings is told by the summaries of both: the counts add up, the
graver risk counts, and what both take off the score is taken off. The score is what is left of 100,
so that it is no higher with more findings, and the order of the findings does not count. -/
theorem ofFindings_append (fs gs : List Finding) :
    let s := ofFindings fs
    let t := ofFindings gs
    let both := ofFindings (fs ++ gs)
    (both.total = s.total + t.total ∧ ∀ v, both.count v = s.count v + t.count v) ∧
    ((∀ v n, (v, n) ∈ s.counts ↔ n = (fs.countP fun f ↦ v = f.severity) ∧ 0 < n) ∧
      (s.counts.map Prod.fst).Nodup ∧ (∀ v, s.count v = fs.countP fun f ↦ v = f.severity) ∧
      (s.counts.map Prod.snd).sum = s.total ∧ s.total = fs.length) ∧
    (both.risk.rank = min s.risk.rank t.risk.rank ∧ (ofFindings []).risk = .info ∧
      ∀ f, (ofFindings [f]).risk = f.severity) ∧
    ((both.score : Int) = max 0 (s.score + t.score - 100) ∧
      (s.score : Int) = max 0 (100 - (25 * s.count .critical + 15 * s.count .high +
        8 * s.count .medium + 3 * s.count .low + s.count .info)) ∧
      s.score ≤ 100 ∧ ∀ more, fs.Subperm more → (ofFindings more).score ≤ s.score) ∧
    ∀ other, fs.Perm other → ofFindings other = s := by
  intro s t both
  have score (fs : List Finding) : (ofFindings fs).score = 100 - penalty fs := rfl
  refine ⟨⟨List.length_append, count_append fs gs⟩,
    ⟨fun v n ↦ mem_counts_iff, ?_, count_ofFindings fs, sum_counts fs, rfl⟩,
    ⟨rank_risk_append fs gs, rfl, ?_⟩,
    ⟨?_, ?_, Nat.sub_le 100 _, fun more ↦ score_le_of_subperm⟩,
    fun other perm ↦ (ofFindings_eq_of_perm perm).symm⟩
  · refine (ordered_counts fs).imp fun lt same ↦ ?_
    rw [same] at lt
    exact Nat.lt_irrefl _ lt
  · intro f
    change graver .info f.severity = f.severity
    cases f.severity <;> rfl
  · simp only [both, s, t, score, penalty_append]
    omega
  · simp only [s, score, penalty_eq]
    omega

/-- Findings of three severities that cost more than the score has, in two lists. -/
theorem ofFindings_append_exhausted :
    let finding := fun s : Severity ↦ ({
      weakness := "Weakness", severity := s, line := none, snippet := "", description := ""
      explanation := "", recommendation := "", cwe := none, swc := none } : Finding)
    let fs := [finding .low, finding .critical, finding .critical]
    let gs := [finding .high, finding .critical, finding .high]
    fs.Subperm (gs ++ fs) ∧ fs.Perm fs.reverse ∧
      (ofFindings (gs ++ fs)).score ≤ (ofFindings fs).score ∧
      ofFindings fs.reverse = ofFindings fs ∧
      (ofFindings (fs ++ gs)).counts = [(.critical, 3), (.high, 2), (.low, 1)] ∧
      (ofFindings fs).score = 47 ∧ (ofFindings gs).score = 45 ∧
      ((ofFindings (fs ++ gs)).score : Int) =
        max 0 ((ofFindings fs).score + (ofFindings gs).score - 100) := by
  intro finding fs gs
  obtain ⟨-, -, -, ⟨added, -, -, fewer⟩, same⟩ := ofFindings_append fs gs
  have part : fs.Subperm (gs ++ fs) := (List.sublist_append_right gs fs).subperm
  have turned : fs.Perm fs.reverse := fs.reverse_perm.symm
  exact ⟨part, turned, fewer _ part, same _ turned, by decide +kernel, by decide +kernel,
    by decide +kernel, added⟩

end ContractScan.Summary
