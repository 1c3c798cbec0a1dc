import ContractScan.Finding.Report

/-!
# The first finding of each key

What `Finding.distinct` keeps of a list: the first finding of each key that has not been seen.
Which keys have been seen matters, not their order (`distinct_congr`), and leaving out the seen
ones may as well come last (`distinct_append_seen`).
-/

namespace ContractScan.Finding

variable {seen seen' : List Key}

/-- Only the membership of the keys seen before matters. -/
theorem distinct_congr (h : ∀ k, k ∈ seen ↔ k ∈ seen') (l : List Finding) :
    distinct seen l = distinct seen' l := by
  induction l generalizing seen seen' with
  | nil => rfl
  | cons f l ih =>
    have longer (k : Key) : k ∈ f.key :: seen ↔ k ∈ f.key :: seen' := by
      rw [List.mem_cons, List.mem_cons, h k]
    simp only [distinct, List.contains_eq_mem, h f.key, ih h, ih longer]

/-- What is kept stands in the order of the list. -/
theorem distinct_sublist (seen : List Key) (l : List Finding) : (distinct seen l).Sublist l := by
  induction l generalizing seen with
  | nil => exact List.nil_sublist []
  | cons f l ih =>
    simp only [distinct]
    split
    · exact (ih seen).cons f
    · exact (ih _).cons_cons f

/-- The keys that are kept are those of the list that have not been seen. -/
theorem mem_map_key_distinct (seen : List Key) (l : List Finding) (k : Key) :
    k ∈ (distinct seen l).map key ↔ k ∈ l.map key ∧ k ∉ seen := by
  induction l generalizing seen with
  | nil => simp [distinct]
  | cons f l ih =>
    simp only [distinct, List.contains_eq_mem, decide_eq_true_eq]
    split
    · next old =>
      rw [ih, List.map_cons, List.mem_cons]
      constructor
      · rintro ⟨mem, new⟩
        exact ⟨.inr mem, new⟩
      · rintro ⟨rfl | mem, new⟩
        · exact absurd old new
        · exact ⟨mem, new⟩
    · next fresh =>
      rw [List.map_cons, List.map_cons, List.mem_cons, List.mem_cons, ih, List.mem_cons]
      by_cases e : k = f.key
      · subst e
        simp [fresh]
      · simp [e]

/-- Each key is kept once. -/
theorem nodup_map_key_distinct (seen : List Key) (l : List Finding) :
    ((distinct seen l).map key).Nodup := by
  induction l generalizing seen with
  | nil => exact List.nodup_nil
  | cons f l ih =>
    simp only [distinct]
    split
    · exact ih seen
    · apply List.nodup_cons.mpr
      refine ⟨?_, ih _⟩
      intro mem
      exact ((mem_map_key_distinct _ l f.key).mp mem).2 List.mem_cons_self

/-- A list in which each key stands once, and none has been seen, is kept as it is. -/
theorem distinct_of_nodup {l : List Finding} (h : (l.map key).Nodup)
    (fresh : ∀ f ∈ l, f.key ∉ seen) : distinct seen l = l := by
  induction l generalizing seen with
  | nil => rfl
  | cons f l ih =>
    obtain ⟨first, rest⟩ := List.nodup_cons.mp h
    have tail : ∀ g ∈ l, g.key ∉ f.key :: seen := by
      intro g mem
      rw [List.mem_cons, not_or]
      refine ⟨?_, fresh g (List.mem_cons_of_mem f mem)⟩
      intro e
      exact first (List.mem_map.mpr ⟨g, mem, e⟩)
    simp [distinct, fresh f List.mem_cons_self, ih rest tail]

/-- The second of two parts is filtered by the keys of the first as well. -/
theorem distinct_append (seen : List Key) (a b : List Finding) :
    distinct seen (a ++ b) = distinct seen a ++ distinct (a.map key ++ seen) b := by
  induction a generalizing seen with
  | nil => rfl
  | cons f a ih =>
    simp only [List.cons_append, distinct, List.contains_eq_mem, decide_eq_true_eq]
    split
    · next old =>
      rw [ih]
      congr 1
      apply distinct_congr
      intro k
      rw [List.map_cons, List.cons_append, List.mem_cons, List.mem_append]
      constructor
      · exact .inr
      · rintro (rfl | mem)
        · exact .inr old
        · exact mem
    · rw [ih, List.cons_append]
      congr 2
      apply distinct_congr
      intro k
      simp only [List.map_cons, List.cons_append, List.mem_cons, List.mem_append]
      exact or_left_comm

/-- Keys seen before may be left out afterwards. -/
theorem distinct_append_seen (more seen : List Key) (l : List Finding) :
    distinct (more ++ seen) l = (distinct seen l).filter fun f ↦ f.key ∉ more := by
  induction l generalizing seen with
  | nil => rfl
  | cons f l ih =>
    -- with the key of `f` seen, its place among the seen ones is of no account
    have moved : distinct (f.key :: (more ++ seen)) l =
        (distinct (f.key :: seen) l).filter fun g ↦ g.key ∉ more := by
      rw [← ih]
      apply distinct_congr
      intro k
      simp only [List.mem_cons, List.mem_append]
      exact or_left_comm
    simp only [distinct, List.contains_eq_mem, decide_eq_true_eq, List.mem_append]
    by_cases old : f.key ∈ seen
    · simp only [old, or_true, if_true]
      exact ih seen
    · by_cases named : f.key ∈ more
      · have skipped : distinct (more ++ seen) l = distinct (f.key :: (more ++ seen)) l := by
          apply distinct_congr
          intro k
          rw [List.mem_cons]
          constructor
          · exact .inr
          · rintro (rfl | mem)
            · exact List.mem_append_left seen named
            · exact mem
        simp [old, named, skipped, moved]
      · simp [old, named, moved]

end ContractScan.Finding
