import ContractScan.Proofs.Text.LetterCase
import ContractScan.Proofs.Text.Row
import ContractScan.Text.Normal

/-!
# Texts that are composed already

A character below the least composed one is not made of others, is no mark, is never the second of
a pair, and no pair makes it. So a text of such characters, an ASCII text for one, is its own
composed form (`composed_of_lt`), and of no other text (`lt_of_composed`).
-/

namespace ContractScan.Text

variable {c : Char} {s : List Char}

theorem combiningClass_of_lt (h : c.toNat < leastComposed) : combiningClass c = 0 :=
  if_pos (Nat.lt_trans h (by decide))

theorem apart_of_lt (h : c.toNat < leastComposed) (fuel : Nat) : apart fuel c = [c] := by
  cases fuel with
  | zero => rfl
  | succ fuel => rw [apart, parts?, if_pos h]

/-- Only marks and letters far beyond ASCII are second in a pair. -/
private theorem leastComposed_le_second :
    ∀ r ∈ composedRows, leastComposed ≤ (Char.ofNat r.1).toNat := by
  decide +kernel

theorem compose?_of_lt (h : c.toNat < leastComposed) (o : Char) : compose? o c = none := by
  have small : c.toNat < 192 := h
  have syllable : syllable? o c = none := by
    simp only [syllable?]
    rw [if_neg (by omega), if_neg (by omega)]
  have table : (composedTable.findSome? fun r ↦
      if r.char == c then r.firsts.lookup o else none) = none := by
    rw [List.findSome?_eq_none_iff]
    intro r mem
    obtain ⟨row, there, rfl⟩ := List.mem_map.mp mem
    refine if_neg fun same ↦ ?_
    rw [← eq_of_beq same] at h
    exact absurd (leastComposed_le_second row there) (Nat.not_le.mpr h)
  rw [compose?, syllable, table]
  rfl

namespace Placed

theorem row_of_lt (h : ∀ c ∈ s, c.toNat < leastComposed) (block : Nat) :
    (row block s).map char = s ∧ (∀ p ∈ row block s, block < p.block) ∧
      (row block s).Pairwise fun x y ↦ x.mayPrecede y = true := by
  induction s generalizing block with
  | nil => exact ⟨rfl, nofun, .nil⟩
  | cons c s ih =>
    obtain ⟨chars, blocks, sorted⟩ := ih (fun d mem ↦ h d (.tail c mem)) (block + 1)
    have rank := combiningClass_of_lt (h c (.head s))
    -- each character begins a block of its own, behind the number that the row goes on from
    simp only [row, rank, if_true]
    refine ⟨congrArg (c :: ·) chars, ?_, ?_⟩
    · intro p mem
      rcases List.mem_cons.mp mem with rfl | later
      · exact Nat.lt_succ_self block
      · exact Nat.lt_of_succ_lt (blocks p later)
    · refine List.pairwise_cons.mpr ⟨fun p later ↦ ?_, sorted⟩
      exact Bool.or_eq_true_iff.mpr (.inl (decide_eq_true (blocks p later)))

end Placed

theorem ordered_of_lt (h : ∀ c ∈ s, c.toNat < leastComposed) : ordered s = s := by
  obtain ⟨chars, -, sorted⟩ := Placed.row_of_lt h 0
  rw [ordered, List.mergeSort_of_pairwise sorted, chars]

namespace Composing

theorem add_of_lt (h : c.toNat < leastComposed) (t : Composing) : t.add c = ⟨t.all, some c, []⟩ := by
  have apart : (t.open?.bind fun o ↦ if t.blocked c then none else compose? o c) = none := by
    cases t.open? with
    | none => rfl
    | some o => rw [Option.bind_some, compose?_of_lt h, ite_self]
  rw [add, apart, if_pos (combiningClass_of_lt h)]

theorem all_foldl_of_lt (h : ∀ c ∈ s, c.toNat < leastComposed) (t : Composing) :
    (s.foldl add t).all = s.reverse ++ t.all := by
  induction s generalizing t with
  | nil => rfl
  | cons c s ih =>
    rw [List.foldl_cons, ih fun d mem ↦ h d (.tail c mem), add_of_lt (h c (.head s)),
      List.reverse_cons, List.append_assoc]
    rfl

end Composing

theorem flatMap_apart_of_lt (h : ∀ c ∈ s, c.toNat < leastComposed) (fuel : Nat) :
    s.flatMap (apart fuel) = s := by
  induction s with
  | nil => rfl
  | cons c s ih =>
    rw [List.flatMap_cons, apart_of_lt (h c (.head s)), ih fun d mem ↦ h d (.tail c mem)]
    rfl

/-- A text of characters below the least composed one is its own composed form. -/
theorem composed_of_lt (h : ∀ c ∈ s, c.toNat < leastComposed) : composed s = s := by
  rw [composed, flatMap_apart_of_lt h, ordered_of_lt h, Composing.all_foldl_of_lt h, List.reverse_append,
    List.reverse_reverse]
  exact List.nil_append s

/-! ### Other texts -/

/-- The word is no pair that makes a character below the least composed one. -/
def makesComposed : List Nat → Bool
  | [_, whole] => decide (leastComposed ≤ (Char.ofNat whole).toNat)
  | _ => true

set_option maxRecDepth 2000 in
private theorem makesComposed_composedRows :
    ∀ row ∈ composedRows, ∀ w ∈ rowPoints row.2, makesComposed w = true := by
  apply forall_rowPoints
  apply Exists.intro
  apply And.intro
  · dsimp only [composedRows]
    repeat apply spelled_cons rfl
    exact spelled_nil
  · decide +kernel

/-- What two characters make together is none below the least composed one. -/
theorem leastComposed_le_of_compose? {a b whole : Char} (made : compose? a b = some whole) :
    leastComposed ≤ whole.toNat := by
  have least : leastComposed = 192 := rfl
  rcases Option.or_eq_some_iff.mp made with syllable | ⟨-, made⟩
  · simp only [syllable?] at syllable
    split_ifs at syllable with pair syllableAndFinal
    · rw [← Option.some.inj syllable, toNat_ofNat (.inl (by omega))]
      omega
    · rw [← Option.some.inj syllable, toNat_ofNat (.inl (by omega))]
      omega
  · obtain ⟨r, mem, made⟩ := List.exists_of_findSome?_eq_some made
    split at made
    next =>
      obtain ⟨row, there, rfl⟩ := List.mem_map.mp mem
      obtain ⟨before, after, pairs, -⟩ := List.lookup_eq_some_iff.mp made
      have pair : (a, whole) ∈ before ++ (a, whole) :: after := by simp
      rw [← pairs] at pair
      obtain ⟨w, word, read⟩ := List.mem_filterMap.mp pair
      have composed := makesComposed_composedRows row there w word
      split at read
      next =>
        cases read
        exact of_decide_eq_true composed
      next => cases read
    next => cases made

/-- The second part of a character is none below the least composed one. -/
theorem leastComposed_le_of_parts? {a b : Char} (taken : parts? c = some (a, b)) :
    leastComposed ≤ b.toNat := by
  have least : leastComposed = 192 := rfl
  rw [parts?] at taken
  split at taken
  next => cases taken
  next =>
    rcases Option.or_eq_some_iff.mp taken with syllable | ⟨-, taken⟩
    · simp only [syllableParts?] at syllable
      split_ifs at syllable
      · rw [← (Prod.mk.inj (Option.some.inj syllable)).2, toNat_ofNat (.inl (by omega))]
        omega
      · rw [← (Prod.mk.inj (Option.some.inj syllable)).2, toNat_ofNat (.inl (by omega))]
        omega
    · obtain ⟨r, mem, taken⟩ := List.exists_of_findSome?_eq_some taken
      obtain ⟨pair, -, same⟩ := Option.map_eq_some_iff.mp taken
      cases same
      obtain ⟨row, there, rfl⟩ := List.mem_map.mp mem
      exact leastComposed_le_second row there

/-- A character that is none of those below has such a part. -/
theorem exists_mem_apart (h : leastComposed ≤ c.toNat) (fuel : Nat) :
    ∃ d ∈ apart fuel c, leastComposed ≤ d.toNat := by
  cases fuel with
  | zero => exact ⟨c, List.mem_singleton_self c, h⟩
  | succ fuel =>
    rw [apart]
    split
    next a b taken => exact ⟨b, by simp, leastComposed_le_of_parts? taken⟩
    next => exact ⟨c, List.mem_singleton_self c, h⟩

theorem Placed.map_char_row (s : List Char) (block : Nat) : (row block s).map char = s := by
  induction s generalizing block with
  | nil => rfl
  | cons c s ih => rw [row, List.map_cons, ih]

theorem mem_ordered : c ∈ ordered s ↔ c ∈ s := by
  have same := ((Placed.row 0 s).mergeSort_perm Placed.mayPrecede).map Placed.char
  rw [Placed.map_char_row] at same
  exact same.mem_iff

namespace Composing

/-- A character that is none of those below stays, or becomes a part of one. -/
theorem exists_mem_all_add {t : Composing}
    (h : (∃ d ∈ t.all, leastComposed ≤ d.toNat) ∨ leastComposed ≤ c.toNat) :
    ∃ d ∈ (t.add c).all, leastComposed ≤ d.toNat := by
  rw [add]
  split
  next whole made =>
    obtain ⟨o, -, made⟩ := Option.bind_eq_some_iff.mp made
    split at made
    · cases made
    · exact ⟨whole, by simp [all], leastComposed_le_of_compose? made⟩
  next =>
    have kept (u : Composing) (mem : ∀ d, d ∈ u.all ↔ d = c ∨ d ∈ t.all) :
        ∃ d ∈ u.all, leastComposed ≤ d.toNat := by
      rcases h with ⟨d, there, above⟩ | above
      · exact ⟨d, (mem d).mpr (.inr there), above⟩
      · exact ⟨c, (mem c).mpr (.inl rfl), above⟩
    split
    · exact kept _ fun d ↦ by simp [all]
    · split
      · exact kept _ fun d ↦ by simp [all]
      · exact kept _ fun d ↦ by simp [all, or_left_comm]

theorem exists_mem_all_foldl {t : Composing}
    (h : (∃ d ∈ t.all, leastComposed ≤ d.toNat) ∨ ∃ d ∈ s, leastComposed ≤ d.toNat) :
    ∃ d ∈ (s.foldl add t).all, leastComposed ≤ d.toNat := by
  induction s generalizing t with
  | nil => simpa using h
  | cons c s ih =>
    refine ih ?_
    rcases h with there | ⟨d, mem, above⟩
    · exact .inl (exists_mem_all_add (.inl there))
    · rcases List.mem_cons.mp mem with rfl | later
      · exact .inl (exists_mem_all_add (.inr above))
      · exact .inr ⟨d, later, above⟩

end Composing

/-- A text whose composed form has only characters below the least composed one is of such
characters itself. -/
theorem lt_of_composed (h : ∀ c ∈ composed s, c.toNat < leastComposed) :
    ∀ c ∈ s, c.toNat < leastComposed := by
  by_contra above
  obtain ⟨c, mem, above⟩ := not_forall₂.mp above
  obtain ⟨d, part, above⟩ := exists_mem_apart (Nat.le_of_not_lt above) maxParts
  have there : d ∈ ordered (s.flatMap (apart maxParts)) :=
    mem_ordered.mpr (List.mem_flatMap.mpr ⟨c, mem, part⟩)
  obtain ⟨e, still, above⟩ := Composing.exists_mem_all_foldl (t := {}) (.inr ⟨d, there, above⟩)
  exact absurd (h e (List.mem_reverse.mpr still)) (Nat.not_lt.mpr above)

end ContractScan.Text
