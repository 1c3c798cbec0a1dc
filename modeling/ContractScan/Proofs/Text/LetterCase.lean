import ContractScan.Pattern.CharClass
import ContractScan.Text.Utf8

/-!
# ASCII letter case

What lowering the case of ASCII letters leaves alone: the size in bytes, line ends, and the
membership in a class of characters that does not tell the two cases apart
(`CharClass.holds_toLower`).
-/

namespace ContractScan

namespace Text

/-- What holds of the first 128 characters holds of any among them. -/
theorem forall_ascii {P : Char → Prop} (h : ∀ n : Fin 128, P (Char.ofNat n)) (c : Char)
    (lt : c.toNat < 128) : P c := by
  have at_code := h ⟨c.toNat, lt⟩
  rwa [Char.ofNat_toNat] at at_code

theorem toNat_ofNat {n : Nat} (valid : n.isValidChar) : (Char.ofNat n).toNat = n := by
  rw [Char.ofNat, dif_pos valid]
  rfl

theorem lt_of_isAlphanum {c : Char} (h : c.isAlphanum = true) : c.toNat < 128 := by
  have below (d : Char) (small : d.toNat < 128) (le : c.val ≤ d.val) : c.toNat < 128 :=
    Nat.lt_of_le_of_lt (UInt32.le_iff_toNat_le.mp le) small
  rcases Bool.or_eq_true_iff.mp h with letter | digit
  · rcases Bool.or_eq_true_iff.mp letter with upper | lower
    · exact below 'Z' (by decide) (of_decide_eq_true upper).2
    · exact below 'z' (by decide) (of_decide_eq_true (Bool.and_eq_true_iff.mp lower).2)
  · exact below '9' (by decide) (of_decide_eq_true (Bool.and_eq_true_iff.mp digit).2)

/-- What holds of the ASCII letters and digits holds of any of them. -/
theorem forall_alphanum {P : Char → Prop}
    (h : ∀ n : Fin 128, (Char.ofNat n).isAlphanum = true → P (Char.ofNat n)) {c : Char}
    (alphanum : c.isAlphanum = true) : P c :=
  forall_ascii (P := fun c ↦ c.isAlphanum = true → P c) h c (lt_of_isAlphanum alphanum) alphanum

private theorem upper_or (c : Char) : c.toLower = c ∨ c.toNat < 128 ∧ c.isUpper = true := by
  by_cases upper : 'A'.val ≤ c.val ∧ c.val ≤ 'Z'.val
  · have le : c.toNat ≤ 90 := upper.2
    exact .inr ⟨by omega, decide_eq_true upper⟩
  · exact .inl (dif_neg upper)

/-- A property of characters holds of lower-case and other characters alike if it does of the
ASCII letters. -/
private theorem toLower_induction {P : Char → Char → Prop} (same : ∀ c, P c c)
    (upper : ∀ n : Fin 128, (Char.ofNat n).isUpper = true →
      P (Char.ofNat n).toLower (Char.ofNat n)) (c : Char) : P c.toLower c := by
  rcases upper_or c with e | ⟨ascii, big⟩
  · rw [e]
    exact same c
  · exact forall_ascii (P := fun c ↦ c.isUpper = true → P c.toLower c) upper c ascii big

/-- Only letters change their case. -/
theorem toLower_eq_or (c : Char) :
    c.toLower = c ∨ c.isAlpha = true ∧ c.toLower.isAlpha = true := by
  apply toLower_induction (P := fun l c ↦ l = c ∨ c.isAlpha = true ∧ l.isAlpha = true)
  · exact fun _ ↦ .inl rfl
  · decide +kernel

/-- The letters come from `A` on. -/
theorem le_of_isAlpha {c : Char} (h : c.isAlpha = true) : 'A' ≤ c := by
  rcases Bool.or_eq_true_iff.mp h with upper | lower
  · exact (of_decide_eq_true upper).1
  · have first : 'A'.val ≤ 'a'.val := by decide
    have last : 'a'.val ≤ c.val := of_decide_eq_true (Bool.and_eq_true_iff.mp lower).1
    exact UInt32.le_trans first last

/-- Lowering the case keeps the size. -/
theorem utf8Size_toLower (c : Char) : c.toLower.utf8Size = c.utf8Size := by
  apply toLower_induction (P := fun l c ↦ l.utf8Size = c.utf8Size)
  · exact fun _ ↦ rfl
  · decide +kernel

theorem foldCase_toLower (c : Char) : foldCase c.toLower = foldCase c := by
  apply toLower_induction (P := fun l c ↦ foldCase l = foldCase c)
  · exact fun _ ↦ rfl
  · decide +kernel

theorem isBlank_toLower (c : Char) : isBlank c.toLower = isBlank c := by
  apply toLower_induction (P := fun l c ↦ isBlank l = isBlank c)
  · exact fun _ ↦ rfl
  · decide +kernel

theorem isWord_toLower (c : Char) : isWord c.toLower = isWord c := by
  apply toLower_induction (P := fun l c ↦ isWord l = isWord c)
  · exact fun _ ↦ rfl
  · decide +kernel

theorem isDigit_toLower (c : Char) : isDigit c.toLower = isDigit c := by
  apply toLower_induction (P := fun l c ↦ isDigit l = isDigit c)
  · exact fun _ ↦ rfl
  · decide +kernel

/-- Lowering the case makes no newline and removes none. -/
theorem toLower_eq_newline (c : Char) : c.toLower = '\n' ↔ c = '\n' := by
  rcases toLower_eq_or c with e | ⟨letter, lower⟩
  · rw [e]
  · constructor
    · intro e
      rw [e] at lower
      exact absurd lower (by decide)
    · intro e
      rw [e] at letter
      exact absurd letter (by decide)

end Text

namespace CharClass

/-- Whether the class is known to hold both cases of a letter or neither: a range has to end
before the letters, and an exclusion may not name any. -/
def ignoresCase : CharClass → Bool
  | .like _ | .blank | .word | .digit => true
  | .within _ hi => decide (hi < 'A')
  | .except cs => cs.all fun c ↦ !c.isAlpha

/-- Such a class holds a character if it holds its lower case. -/
theorem holds_toLower {c : CharClass} (h : c.ignoresCase = true) (x : Char) :
    c.holds x.toLower = c.holds x := by
  cases c with
  | like c => rw [holds, holds, Text.foldCase_toLower]
  | blank => exact Text.isBlank_toLower x
  | word => exact Text.isWord_toLower x
  | digit => exact Text.isDigit_toLower x
  | within lo hi =>
    have small : hi < 'A' := of_decide_eq_true h
    have beyond (y : Char) (letter : y.isAlpha = true) : ¬y ≤ hi := by
      intro le
      exact absurd (Text.le_of_isAlpha letter) (Char.not_le.mpr (Std.lt_of_le_of_lt le small))
    rcases Text.toLower_eq_or x with e | ⟨letter, lower⟩
    · rw [e]
    · simp [holds, beyond _ letter, beyond _ lower]
  | except cs =>
    have beyond (y : Char) (letter : y.isAlpha = true) : y ∉ cs := by
      intro mem
      have other := List.all_eq_true.mp h y mem
      simp [letter] at other
    rcases Text.toLower_eq_or x with e | ⟨letter, lower⟩
    · rw [e]
    · simp [holds, beyond _ letter, beyond _ lower]

end CharClass

end ContractScan
