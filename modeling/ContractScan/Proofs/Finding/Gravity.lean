import ContractScan.Finding.Report

/-!
# The order of gravity

A stable sort by severity puts the items of each severity one after the other, the gravest
severity first (`mergeSort_rank`). In this form a list may be sorted before or after items are
added to it or taken from it.
-/

namespace ContractScan.Severity

variable {α β : Type} (sev : α → Severity)

/-- The items of each severity one after the other, the gravest first. -/
def grouped (l : List α) : List α :=
  all.flatMap fun v ↦ l.filter fun a ↦ sev a = v

/-- Only the items of each severity matter. -/
theorem grouped_congr {l m : List α}
    (h : ∀ v, (l.filter fun a ↦ sev a = v) = m.filter fun a ↦ sev a = v) :
    grouped sev l = grouped sev m := by
  simp only [grouped, h]

/-- Grouping keeps the items of one severity and their order. -/
theorem filter_grouped (l : List α) (v : Severity) :
    ((grouped sev l).filter fun a ↦ sev a = v) = l.filter fun a ↦ sev a = v := by
  have group (w : Severity) : ((l.filter fun a ↦ sev a = w).filter fun a ↦ sev a = v) =
      if w = v then l.filter fun a ↦ sev a = v else [] := by
    rw [List.filter_filter]
    split
    · next e =>
      subst e
      simp
    · next ne =>
      apply List.filter_eq_nil_iff.mpr
      intro a _ both
      simp only [Bool.and_eq_true, decide_eq_true_eq] at both
      exact ne (both.2.symm.trans both.1)
  rw [grouped, List.filter_flatMap]
  simp only [group]
  cases v <;> simp [all]

/-- The members are those of the list. -/
theorem mem_grouped {l : List α} {a : α} : a ∈ grouped sev l ↔ a ∈ l := by
  simp only [grouped, List.mem_flatMap, List.mem_filter, decide_eq_true_eq]
  constructor
  · rintro ⟨v, _, mem, _⟩
    exact mem
  · intro mem
    exact ⟨sev a, by cases sev a <;> decide, mem, rfl⟩

/-- A list that is already in order of gravity stays as it is. -/
theorem grouped_of_pairwise {l : List α} (h : l.Pairwise fun a b ↦ (sev a).rank ≤ (sev b).rank) :
    grouped sev l = l := by
  induction l with
  | nil => rfl
  | cons a l ih =>
    obtain ⟨first, rest⟩ := List.pairwise_cons.mp h
    have graver (v : Severity) (lt : v.rank < (sev a).rank) :
        (l.filter fun b ↦ sev b = v) = [] := by
      apply List.filter_eq_nil_iff.mpr
      intro b mem e
      have le := first b mem
      rw [of_decide_eq_true e] at le
      omega
    have step : grouped sev (a :: l) = a :: grouped sev l := by
      cases e : sev a <;> rw [e] at graver <;>
        simp +decide [grouped, all, List.filter_cons, e, graver]
    rw [step, ih rest]

/-- Of a list in order of gravity, the items at least as grave as some severity come first. -/
theorem filter_prefix_of_pairwise {l : List α}
    (h : l.Pairwise fun a b ↦ (sev a).rank ≤ (sev b).rank) (v : Severity) :
    (l.filter fun a ↦ (sev a).meets v) <+: l := by
  induction l with
  | nil => exact List.nil_prefix
  | cons a l ih =>
    obtain ⟨first, rest⟩ := List.pairwise_cons.mp h
    cases grave : (sev a).meets v with
    | true =>
      rw [List.filter_cons, if_pos grave]
      exact (List.prefix_cons_inj a).mpr (ih rest)
    | false =>
      -- after an item that is less grave none is grave enough
      have none : (l.filter fun b ↦ (sev b).meets v) = [] := by
        apply List.filter_eq_nil_iff.mpr
        intro b mem met
        have le := first b mem
        have above := of_decide_eq_false grave
        have below := of_decide_eq_true met
        omega
      rw [List.filter_cons, if_neg (Bool.eq_false_iff.mp grave), none]
      exact List.nil_prefix

/-- A stable sort by severity groups the list. -/
theorem mergeSort_rank (l : List α) :
    (l.mergeSort fun a b ↦ (sev a).rank ≤ (sev b).rank) = grouped sev l := by
  have trans (a b c : α) (hab : decide ((sev a).rank ≤ (sev b).rank) = true)
      (hbc : decide ((sev b).rank ≤ (sev c).rank) = true) :
      decide ((sev a).rank ≤ (sev c).rank) = true := by
    simp only [decide_eq_true_eq] at hab hbc ⊢
    omega
  have total (a b : α) :
      (decide ((sev a).rank ≤ (sev b).rank) || decide ((sev b).rank ≤ (sev a).rank)) = true := by
    simp only [Bool.or_eq_true, decide_eq_true_eq]
    omega
  have sorted := (List.pairwise_mergeSort trans total l).imp of_decide_eq_true
  have same (v : Severity) :
      ((l.mergeSort fun a b ↦ (sev a).rank ≤ (sev b).rank).filter fun a ↦ sev a = v) =
        l.filter fun a ↦ sev a = v := by
    -- the items of one severity are a sorted part of the list, so stability keeps their order
    have level : (l.filter fun a ↦ sev a = v).Pairwise
        fun a b ↦ decide ((sev a).rank ≤ (sev b).rank) = true := by
      apply List.pairwise_of_forall_mem_list
      intro a ha b hb
      have ea := of_decide_eq_true (List.mem_filter.mp ha).2
      have eb := of_decide_eq_true (List.mem_filter.mp hb).2
      simp [ea, eb]
    have part := List.sublist_mergeSort trans total level List.filter_sublist
    have again := part.filter fun a ↦ decide (sev a = v)
    rw [List.filter_filter] at again
    simp only [Bool.and_self] at again
    exact (again.eq_of_length
      ((List.mergeSort_perm l _).filter _).length_eq.symm).symm
  rw [← grouped_of_pairwise sev sorted]
  exact grouped_congr sev same

/-- The groups come in order of gravity, and within each the order of the list is kept. -/
theorem pairwise_grouped {R : α → α → Prop} {l : List α} (h : l.Pairwise R) :
    (grouped sev l).Pairwise fun a b ↦
      (sev a).rank < (sev b).rank ∨ (sev a).rank = (sev b).rank ∧ R a b := by
  apply List.pairwise_flatMap.mpr
  constructor
  · intro v _
    apply (h.filter _).imp_of_mem
    intro a b ha hb r
    have ea := of_decide_eq_true (List.mem_filter.mp ha).2
    have eb := of_decide_eq_true (List.mem_filter.mp hb).2
    exact .inr ⟨by rw [ea, eb], r⟩
  · have ascending : all.Pairwise fun v w ↦ v.rank < w.rank := by decide
    apply ascending.imp
    intro v w lt a ha b hb
    have ea := of_decide_eq_true (List.mem_filter.mp ha).2
    have eb := of_decide_eq_true (List.mem_filter.mp hb).2
    exact .inl (by rw [ea, eb]; exact lt)

/-- The first of two parts may be grouped before. -/
theorem grouped_grouped_append (l m : List α) :
    grouped sev (grouped sev l ++ m) = grouped sev (l ++ m) := by
  apply grouped_congr
  intro v
  rw [List.filter_append, List.filter_append, filter_grouped]

/-- The second of two parts may be grouped before. -/
theorem grouped_append_grouped (l m : List α) :
    grouped sev (l ++ grouped sev m) = grouped sev (l ++ m) := by
  apply grouped_congr
  intro v
  rw [List.filter_append, List.filter_append, filter_grouped]

/-- Items may be left out before or after. -/
theorem filter_grouped_comm (p : α → Bool) (l : List α) :
    (grouped sev l).filter p = grouped sev (l.filter p) := by
  rw [grouped, List.filter_flatMap, grouped]
  simp only [List.filter_filter, Bool.and_comm]

/-- Items may be rewritten before or after, where their severities stay. -/
theorem map_grouped (sev' : β → Severity) (f : α → β) (h : ∀ a, sev' (f a) = sev a) (l : List α) :
    (grouped sev l).map f = grouped sev' (l.map f) := by
  rw [grouped, List.map_flatMap, grouped]
  simp only [List.filter_map, Function.comp_def, h]

end ContractScan.Severity
