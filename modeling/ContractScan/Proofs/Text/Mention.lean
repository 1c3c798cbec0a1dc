import ContractScan.Text.LetterCase
import Mathlib.Data.List.Infix

/-!
# Words in a text

A text mentions a word where the word stands in it as it is, but for the case of ASCII letters. Of a
text that is put together at a character the word does not have, either part mentions it or neither
does (`mentions_append`).
-/

namespace ContractScan.Text

variable {s t w : String} {c : Char}

theorem hasInfix_iff (part cs : List Char) : hasInfix part cs = true ↔ part <:+: cs := by
  induction cs with
  | nil => rw [hasInfix, List.isEmpty_iff, List.infix_nil]
  | cons c cs ih =>
    rw [hasInfix, Bool.or_eq_true, List.isPrefixOf_iff_prefix, ih, List.infix_cons_iff]

theorem mentions_iff : mentions s w = true ↔ w.toList <:+: s.toList.map Char.toLower :=
  hasInfix_iff _ _

/-- What a part of a text mentions, the text does. -/
theorem mentions_of_isInfix (part : s.toList <:+: t.toList) (mentioned : mentions s w = true) :
    mentions t w = true :=
  mentions_iff.mpr ((mentions_iff.mp mentioned).trans (part.map Char.toLower))

/-- A text does not mention a word with a character that it does not have. -/
theorem mentions_eq_false (mem : c ∈ w.toList) (absent : ∀ d ∈ s.toList, d.toLower ≠ c) :
    mentions s w = false := by
  refine Bool.eq_false_iff.mpr fun mentioned ↦ ?_
  obtain ⟨d, there, same⟩ := List.mem_map.mp ((mentions_iff.mp mentioned).subset mem)
  exact absent d there same

theorem mentions_append (ends : (s.toList.map Char.toLower).getLast? = some c)
    (absent : c ∉ w.toList) : mentions (s ++ t) w = (mentions s w || mentions t w) := by
  obtain ⟨before, first⟩ := List.getLast?_eq_some_iff.mp ends
  rw [Bool.eq_iff_iff, Bool.or_eq_true, mentions_iff, mentions_iff, mentions_iff,
    String.toList_append, List.map_append, List.infix_append_iff, or_congr_right]
  constructor
  · rintro (later | ⟨front, back, whole, atEnd, atStart⟩)
    · exact later
    · -- What the word has of the first part would end in `c`, so it is nothing.
      rcases List.suffix_concat_iff.mp (first ▸ atEnd) with rfl | ⟨other, rfl, -⟩
      · rw [whole, List.nil_append]
        exact atStart.isInfix
      · exact absurd (by simp [whole]) absent
  · exact .inl

end ContractScan.Text
