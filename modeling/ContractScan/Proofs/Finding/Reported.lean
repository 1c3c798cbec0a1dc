import ContractScan.Proofs.Finding.Finalize

/-!
# Which findings are reported

The finalized list told by positions in the raw one, without a sort and without a set of keys seen:
of each severity, the gravest first, the findings before which no other says the same
(`finalize_eq_flatMap_firstsOf`). An earlier finding counts whatever its own severity is.
-/

namespace ContractScan.Finding

/-- The findings say the same: one weakness, on one line or both on none, and descriptions that
begin with the same fifty characters. -/
def Alike (f g : Finding) : Prop :=
  f.weakness = g.weakness ∧ f.line = g.line ∧
    f.description.toList.take 50 = g.description.toList.take 50

instance : DecidableRel Alike := fun f g ↦
  inferInstanceAs (Decidable (f.weakness = g.weakness ∧ f.line = g.line ∧
    f.description.toList.take 50 = g.description.toList.take 50))

/-- Findings say the same if they have the same key. -/
theorem alike_iff {f g : Finding} : f.Alike g ↔ f.key = g.key := by
  simp only [Alike, key, keyLength, Prod.mk.injEq]
  exact and_left_comm

/-- The findings of the severity, in the order of the list, before which no other says the same. -/
def firstsOf (raw : List Finding) (v : Severity) : List Finding :=
  (raw.zipIdx.filter fun (f, i) ↦ f.severity = v ∧ ∀ g ∈ raw.take i, ¬g.Alike f).map Prod.fst

/-- What is kept, with the findings seen before as the beginning of the list. -/
theorem distinct_eq_zipIdx (before l : List Finding) :
    distinct (before.map key) l =
      ((l.zipIdx before.length).filter fun (f, i) ↦
        ∀ g ∈ (before ++ l).take i, ¬g.Alike f).map Prod.fst := by
  induction l generalizing before with
  | nil => rfl
  | cons f l ih =>
    have fresh : (∀ g ∈ (before ++ f :: l).take before.length, ¬g.Alike f) ↔
        f.key ∉ before.map key := by
      rw [List.take_left, List.mem_map]
      simp only [alike_iff, not_exists, not_and]
    have tail := ih (before ++ [f])
    rw [List.length_append, List.length_singleton, List.append_assoc, List.singleton_append]
      at tail
    rw [distinct, List.zipIdx_cons, List.filter_cons]
    simp only [List.contains_eq_mem, decide_eq_true_eq, fresh]
    by_cases old : f.key ∈ before.map key
    · rw [if_pos old, if_neg (not_not_intro old), ← tail]
      apply distinct_congr
      intro k
      rw [List.map_append, List.mem_append, List.map_singleton, List.mem_singleton]
      constructor
      · exact .inl
      · rintro (mem | rfl)
        · exact mem
        · exact old
    · rw [if_neg old, if_pos old, List.map_cons, ← tail]
      congr 1
      apply distinct_congr
      intro k
      rw [List.map_append, List.mem_append, List.map_singleton, List.mem_singleton,
        List.mem_cons, or_comm]

/-- The findings of one severity that are kept. -/
theorem filter_distinct (raw : List Finding) (v : Severity) :
    ((distinct [] raw).filter fun f ↦ f.severity = v) = firstsOf raw v := by
  have kept := distinct_eq_zipIdx [] raw
  rw [List.map_nil, List.length_nil, List.nil_append] at kept
  rw [kept, firstsOf, List.filter_map, List.filter_filter]
  congr 1
  apply List.filter_congr
  intro fi _
  exact (Bool.decide_and _ _).symm

/-- The findings that are reported are those before which no other says the same, those of each
severity one after the other, the gravest first, and within a severity in the order in which they
were found. -/
theorem finalize_eq_flatMap_firstsOf (raw : List Finding) :
    finalize raw = [.critical, .high, .medium, .low, .info].flatMap (firstsOf raw) := by
  rw [finalize_eq, Severity.grouped]
  simp only [filter_distinct]
  rfl

end ContractScan.Finding
