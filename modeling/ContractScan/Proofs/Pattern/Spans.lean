import ContractScan.Pattern.Unlimited

/-!
# The matches of a text, in order

Each match of a text is what the pattern takes at some place of it (`exists_of_mem_spansFrom`). The
matches start one after the other, with or without a budget (`pairwise_matchesIn`).
-/

namespace ContractScan.Pattern

/-- A match is what the pattern takes where some last part of the text begins. -/
theorem exists_of_mem_spansFrom (p : Pattern Plain) {pos skip : Nat} {s : List Char} {m : Span}
    (h : m ∈ p.spansFrom pos skip s) :
    ∃ before taken rest, s = before ++ (taken ++ rest) ∧ p.rest? (taken ++ rest) = some rest ∧
      m = ⟨pos + Text.size before, pos + Text.size before + Text.size taken⟩ := by
  induction s generalizing pos skip with
  | nil =>
    rw [spansFrom] at h
    split at h
    · next here =>
      obtain rfl := List.mem_singleton.mp h
      obtain ⟨rest, found⟩ := Option.isSome_iff_exists.mp here.2
      obtain rfl := List.eq_nil_of_suffix_nil (p.rest?_suffix found)
      exact ⟨[], [], [], rfl, found, rfl⟩
    · cases h
  | cons c s ih =>
    have later {skip : Nat} (h : m ∈ p.spansFrom (pos + c.utf8Size) skip s) :
        ∃ before taken rest, c :: s = before ++ (taken ++ rest) ∧
          p.rest? (taken ++ rest) = some rest ∧
          m = ⟨pos + Text.size before, pos + Text.size before + Text.size taken⟩ := by
      obtain ⟨before, taken, rest, rfl, found, rfl⟩ := ih h
      exact ⟨c :: before, taken, rest, rfl, found, by rw [Text.size_cons, Nat.add_assoc]⟩
    cases skip with
    | succ skip => exact later h
    | zero =>
      simp only [spansFrom] at h
      split at h
      · next rest found =>
        rcases List.mem_cons.mp h with rfl | h
        · obtain ⟨taken, e⟩ := p.rest?_suffix found
          rw [← e] at found ⊢
          refine ⟨[], taken, rest, rfl, found, ?_⟩
          rw [Text.size_append, Nat.add_sub_cancel]
          rfl
        · exact later h
      · exact later h

/-- No match ends before it starts or behind the text. -/
theorem stop_le_of_mem_spansFrom (p : Pattern Plain) {pos skip : Nat} {s : List Char} {m : Span}
    (h : m ∈ p.spansFrom pos skip s) : m.start ≤ m.stop ∧ m.stop ≤ pos + Text.size s := by
  obtain ⟨before, taken, rest, rfl, -, rfl⟩ := p.exists_of_mem_spansFrom h
  simp only [Text.size_append]
  omega

/-- No match starts before the text. -/
theorem le_start_of_mem_spansFrom (p : Pattern Plain) {pos skip : Nat} {s : List Char} {m : Span}
    (h : m ∈ p.spansFrom pos skip s) : pos ≤ m.start := by
  induction s generalizing pos skip with
  | nil =>
    rw [spansFrom] at h
    split at h
    · obtain rfl := List.mem_singleton.mp h
      exact Nat.le_refl pos
    · cases h
  | cons c s ih =>
    cases skip with
    | succ skip =>
      have le := ih h
      omega
    | zero =>
      simp only [spansFrom] at h
      split at h
      · rcases List.mem_cons.mp h with rfl | later
        · exact Nat.le_refl pos
        · have le := ih later
          omega
      · have le := ih h
        omega

/-- Matches start one after the other. -/
theorem pairwise_spansFrom (p : Pattern Plain) (pos skip : Nat) (s : List Char) :
    (p.spansFrom pos skip s).Pairwise fun a b ↦ a.start < b.start := by
  induction s generalizing pos skip with
  | nil =>
    rw [spansFrom]
    split
    · exact List.pairwise_singleton _ _
    · exact List.Pairwise.nil
  | cons c s ih =>
    cases skip with
    | succ skip => exact ih _ skip
    | zero =>
      simp only [spansFrom]
      split
      · apply List.pairwise_cons.mpr
        refine ⟨?_, ih _ _⟩
        intro m later
        have le := p.le_start_of_mem_spansFrom later
        have size := c.utf8Size_pos
        change pos < m.start
        omega
      · exact ih _ 0

/-- The matches that are found start one after the other. -/
theorem pairwise_matchesIn (p : Pattern Plain) (limit : Option Budget) (s : List Char) :
    (p.matchesIn limit (Places.ofList s)).spans.Pairwise fun a b ↦ a.start < b.start :=
  (p.pairwise_spansFrom 0 0 s).sublist (p.spans_matchesIn_prefix limit s).sublist

end ContractScan.Pattern
