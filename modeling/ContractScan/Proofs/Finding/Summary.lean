import ContractScan.Finding.Report

/-!
# What a summary says

A summary counts the findings of each severity (`count_ofFindings`), names the gravest severity
(`rank_risk_le`) and takes the penalties off the score (`penalty_cons`). So with more findings no
count is lower, the risk is no less grave and the score is no higher (`count_le_of_sublist` and the
lemmas after it).
-/

namespace ContractScan.Summary

/-- The severities of the counts come in the order of gravity, each once. -/
def Ordered (counts : List (Severity × Nat)) : Prop :=
  (counts.map Prod.fst).Pairwise fun v w ↦ v.rank < w.rank

variable {counts : List (Severity × Nat)}

theorem mem_map_fst_tally {s v : Severity} :
    v ∈ (tally s counts).map Prod.fst ↔ v = s ∨ v ∈ counts.map Prod.fst := by
  induction counts with
  | nil => simp [tally]
  | cons c rest ih =>
    rw [tally]
    split
    · next e => simp [e]
    · split
      · simp
      · simp only [List.map_cons, List.mem_cons, ih]
        exact or_left_comm

/-- Counting one more keeps the order. -/
theorem ordered_tally (h : Ordered counts) (s : Severity) : Ordered (tally s counts) := by
  induction counts with
  | nil => exact List.pairwise_singleton _ _
  | cons c rest ih =>
    obtain ⟨first, later⟩ := List.pairwise_cons.mp h
    rw [tally]
    split
    · exact List.pairwise_cons.mpr ⟨first, later⟩
    · next ne =>
      split
      · next lt =>
        refine List.pairwise_cons.mpr ⟨?_, h⟩
        intro v mem
        rcases List.mem_cons.mp mem with rfl | mem
        · exact lt
        · exact Nat.lt_trans lt (first v mem)
      · next ge =>
        have other : c.1.rank ≠ s.rank := fun e ↦ ne (Severity.rank_inj.mp e.symm)
        have lt : c.1.rank < s.rank := Nat.lt_of_le_of_ne (Nat.le_of_not_lt ge) other
        refine List.pairwise_cons.mpr ⟨?_, ih later⟩
        intro v mem
        rcases mem_map_fst_tally.mp mem with rfl | mem
        · exact lt
        · exact first v mem

theorem lookup_cons_of_ne {v t : Severity} (ne : v ≠ t) (n : Nat) (rest : List (Severity × Nat)) :
    ((t, n) :: rest).lookup v = rest.lookup v := by
  rw [List.lookup_cons, beq_false_of_ne ne]

/-- Counting one more raises the count of its severity alone. -/
theorem getD_lookup_tally (h : Ordered counts) (s v : Severity) :
    ((tally s counts).lookup v).getD 0 =
      (counts.lookup v).getD 0 + if v = s then 1 else 0 := by
  induction counts with
  | nil =>
    by_cases e : v = s
    · simp [tally, e]
    · simp [tally, lookup_cons_of_ne e, e]
  | cons c rest ih =>
    obtain ⟨t, n⟩ := c
    obtain ⟨first, later⟩ := List.pairwise_cons.mp h
    rw [tally]
    split
    · next same =>
      subst same
      by_cases e : v = s
      · simp [e]
      · simp [lookup_cons_of_ne e, e]
    · next ne =>
      split
      · next lt =>
        -- a severity graver than all that are counted has no count yet
        have fresh : ((t, n) :: rest).lookup s = none := by
          apply List.lookup_eq_none_iff.mpr
          intro d mem
          have le : t.rank ≤ d.1.rank := by
            rcases List.mem_cons.mp mem with rfl | mem
            · exact Nat.le_refl _
            · exact Nat.le_of_lt (first d.1 (List.mem_map_of_mem mem))
          apply bne_iff_ne.mpr
          intro e
          rw [← e] at le
          omega
        by_cases e : v = s
        · simp [e, fresh]
        · simp [lookup_cons_of_ne e, e]
      · by_cases e : v = t
        · simp [e, Ne.symm ne]
        · rw [lookup_cons_of_ne e, lookup_cons_of_ne e]
          exact ih later

/-- A summary counts the findings of each severity. -/
theorem count_ofFindings (fs : List Finding) (v : Severity) :
    (ofFindings fs).count v = fs.countP fun f ↦ v = f.severity := by
  have counted (start : List (Severity × Nat)) (h : Ordered start) :
      ((fs.foldl (fun counts f ↦ tally f.severity counts) start).lookup v).getD 0 =
        (start.lookup v).getD 0 + fs.countP fun f ↦ v = f.severity := by
    induction fs generalizing start with
    | nil => rfl
    | cons f fs ih =>
      rw [List.foldl_cons, ih _ (ordered_tally h _), getD_lookup_tally h, List.countP_cons]
      simp only [decide_eq_true_eq]
      omega
  rw [count, ofFindings, counted [] List.Pairwise.nil]
  exact Nat.zero_add _

/-- The risk is at least as grave as some severity if one of the findings is, or if that is the
severity of no finding at all. -/
theorem rank_risk_le (fs : List Finding) (k : Nat) :
    (ofFindings fs).risk.rank ≤ k ↔
      Severity.info.rank ≤ k ∨ ∃ f ∈ fs, f.severity.rank ≤ k := by
  have gravest (start : Severity) :
      ((fs.map Finding.severity).foldl graver start).rank ≤ k ↔
        start.rank ≤ k ∨ ∃ f ∈ fs, f.severity.rank ≤ k := by
    induction fs generalizing start with
    | nil => simp
    | cons f fs ih =>
      have one : (graver start f.severity).rank ≤ k ↔ start.rank ≤ k ∨ f.severity.rank ≤ k := by
        rw [graver]
        split <;> omega
      rw [List.map_cons, List.foldl_cons, ih, one, or_assoc]
      simp only [List.mem_cons, exists_eq_or_imp]
  exact gravest .info

/-- The risk is critical if one of the findings is. -/
theorem risk_eq_critical_iff (fs : List Finding) :
    (ofFindings fs).risk = .critical ↔ ∃ f ∈ fs, f.severity = .critical := by
  have gravest (v : Severity) : v.rank ≤ Severity.critical.rank ↔ v = .critical := by
    rw [← Severity.rank_inj]
    exact Nat.le_zero
  have risk := rank_risk_le fs Severity.critical.rank
  simp only [gravest] at risk
  rw [risk]
  exact or_iff_right nofun

/-- Each finding adds its penalty. -/
theorem penalty_cons (f : Finding) (fs : List Finding) :
    penalty (f :: fs) = f.severity.penalty + penalty fs := by
  have added (n : Nat) : fs.foldl (fun n f ↦ n + f.severity.penalty) n = n + penalty fs := by
    unfold penalty
    induction fs generalizing n with
    | nil => rfl
    | cons g fs ih =>
      rw [List.foldl_cons, List.foldl_cons, ih, ih (0 + _)]
      omega
  rw [penalty, List.foldl_cons, added, Nat.zero_add]

section Sublist

variable {fs gs : List Finding}

/-- With more findings no count is lower. -/
theorem count_le_of_sublist (h : fs.Sublist gs) (v : Severity) :
    (ofFindings fs).count v ≤ (ofFindings gs).count v := by
  rw [count_ofFindings, count_ofFindings]
  exact h.countP_le

/-- With more findings the risk is no less grave. -/
theorem risk_le_of_sublist (h : fs.Sublist gs) :
    (ofFindings gs).risk.rank ≤ (ofFindings fs).risk.rank := by
  rw [rank_risk_le]
  rcases (rank_risk_le fs _).mp (Nat.le_refl (ofFindings fs).risk.rank) with none | ⟨f, mem, le⟩
  · exact .inl none
  · exact .inr ⟨f, h.mem mem, le⟩

/-- With more findings the score is no higher. -/
theorem score_le_of_sublist (h : fs.Sublist gs) :
    (ofFindings gs).score ≤ (ofFindings fs).score := by
  have more : penalty fs ≤ penalty gs := by
    induction h with
    | slnil => exact Nat.le_refl _
    | cons f _ ih =>
      rw [penalty_cons]
      exact Nat.le_add_left_of_le ih
    | cons_cons f _ ih =>
      rw [penalty_cons, penalty_cons]
      exact Nat.add_le_add_left ih _
  exact Nat.sub_le_sub_left more 100

end Sublist

end ContractScan.Summary
