import ContractScan.Proofs.Finding.Scan
import ContractScan.Proofs.Pattern.LeftToRight
import ContractScan.Proofs.Pattern.Ways

/-!
# Matches of rules that do not look ahead

The search for the matches of such a rule has no limit. So if the rule takes something with every
match, its matches are those of its pattern from left to right (`TakesSomething.leftToRight`), and
each place where the pattern can match lies in one of them (`TakesSomething.exists_covers`).
-/

namespace ContractScan.Rule

variable {r : Rule}

/-- The rule takes something with every match and does not look ahead. -/
structure TakesSomething (r : Rule) : Prop where
  plain : r.pattern.looksAhead = false
  nothing : r.pattern.rest? [] = none

namespace TakesSomething

theorem rest?_ne_self (h : r.TakesSomething) (s : List Char) : r.pattern.rest? s ≠ some s :=
  Pattern.rest?_ne_self h.plain h.nothing s

/-- The matches of the rule are those of its pattern from left to right. -/
theorem leftToRight (h : r.TakesSomething) (source : String) :
    LeftToRight (fun s rest ↦ r.pattern.rest? s = some rest) 0 source.toList
      (r.matchesIn source).spans := by
  rw [matchesIn_of_looksAhead_eq_false h.plain]
  exact Pattern.leftToRight_spansFrom h.rest?_ne_self 0 source.toList

/-- Each place where the pattern can match lies in one of the matches. -/
theorem exists_covers (h : r.TakesSomething) {source : String} {before s rest : List Char}
    (text : source.toList = before ++ s) (way : rest ∈ r.pattern.ways Plain.begins s) :
    ∃ m ∈ (r.matchesIn source).spans,
      m.start ≤ Text.size before ∧ Text.size before < m.stop := by
  obtain ⟨_, begins⟩ := Pattern.exists_rest?_of_mem_ways way
  have covers := (h.leftToRight source).exists_covers h.rest?_ne_self text begins
  rwa [Nat.zero_add] at covers

/-- There is a match if the pattern can match at some place. -/
theorem spans_ne_nil_iff (h : r.TakesSomething) {source : String} :
    (r.matchesIn source).spans ≠ [] ↔ ∃ before s rest, source.toList = before ++ s ∧
      rest ∈ r.pattern.ways Plain.begins s := by
  constructor
  · intro ne
    obtain ⟨m, found⟩ := List.exists_mem_of_ne_nil _ ne
    obtain ⟨before, taken, rest, text, here, -⟩ := exists_of_mem_spans found
    exact ⟨before, taken ++ rest, rest, text, Pattern.mem_ways_of_rest? here⟩
  · rintro ⟨before, s, rest, text, way⟩
    obtain ⟨m, found, -⟩ := h.exists_covers text way
    exact List.ne_nil_of_mem found

end TakesSomething

end ContractScan.Rule
