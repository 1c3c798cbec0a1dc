import ContractScan.Proofs.Source.Lines
import ContractScan.Proofs.Text.LetterCase

/-!
# The two forms of line ends

A text may end its lines by newlines alone or by pairs of a carriage return and a newline. The
change from the one form to the other, `Text.crlf`, keeps the lines and the words inside lines.
-/

namespace ContractScan

namespace Text

/-- The text with a carriage return before each newline. -/
def crlf : List Char → List Char
  | [] => []
  | c :: s => if c = '\n' then '\r' :: '\n' :: crlf s else c :: crlf s

theorem crlf_newline (s : List Char) : crlf ('\n' :: s) = '\r' :: '\n' :: crlf s := rfl

theorem crlf_other {c : Char} (h : c ≠ '\n') (s : List Char) : crlf (c :: s) = c :: crlf s := by
  rw [crlf, if_neg h]

/-- The newlines stay. -/
theorem count_crlf (s : List Char) : (crlf s).count '\n' = s.count '\n' := by
  induction s with
  | nil => rfl
  | cons c s ih =>
    by_cases h : c = '\n'
    · subst h
      rw [crlf_newline, List.count_cons_of_ne (by decide), List.count_cons_self,
        List.count_cons_self, ih]
    · rw [crlf_other h, List.count_cons_of_ne h, List.count_cons_of_ne h, ih]

/-- A last part of the text becomes a last part of the changed text. -/
theorem crlf_suffix {r s : List Char} (h : r <:+ s) : crlf r <:+ crlf s := by
  obtain ⟨taken, rfl⟩ := h
  induction taken with
  | nil => exact List.suffix_refl _
  | cons c taken ih =>
    rw [List.cons_append]
    by_cases h : c = '\n'
    · subst h
      rw [crlf_newline]
      exact (ih.trans (List.suffix_cons _ _)).trans (List.suffix_cons _ _)
    · rw [crlf_other h]
      exact ih.trans (List.suffix_cons _ _)

theorem map_toLower_crlf (s : List Char) :
    (crlf s).map Char.toLower = crlf (s.map Char.toLower) := by
  induction s with
  | nil => rfl
  | cons c s ih =>
    by_cases h : c = '\n'
    · subst h
      rw [crlf_newline, List.map_cons, List.map_cons, ih]
      rfl
    · have lower : c.toLower ≠ '\n' := fun e ↦ h ((toLower_eq_newline c).mp e)
      rw [crlf_other h, List.map_cons, List.map_cons, crlf_other lower, ih]

variable {w : List Char}

/-- A word inside a line begins the changed text if it begins the text. -/
theorem isPrefixOf_crlf (hn : '\n' ∉ w) (hr : '\r' ∉ w) (s : List Char) :
    w.isPrefixOf (crlf s) = w.isPrefixOf s := by
  induction w generalizing s with
  | nil => rfl
  | cons a w ih =>
    have tail := ih (fun mem ↦ hn (List.mem_cons_of_mem a mem))
      (fun mem ↦ hr (List.mem_cons_of_mem a mem))
    have newline : (a == '\n') = false := beq_false_of_ne fun e ↦ hn (e ▸ List.mem_cons_self)
    have carriage : (a == '\r') = false := beq_false_of_ne fun e ↦ hr (e ▸ List.mem_cons_self)
    cases s with
    | nil => rfl
    | cons c s =>
      by_cases h : c = '\n'
      · subst h
        simp only [crlf_newline, List.isPrefixOf, newline, carriage, Bool.false_and]
      · simp only [crlf_other h, List.isPrefixOf, tail]

/-- A word inside a line stands in the changed text if it stands in the text. -/
theorem hasInfix_crlf (ne : w ≠ []) (hn : '\n' ∉ w) (hr : '\r' ∉ w) (s : List Char) :
    hasInfix w (crlf s) = hasInfix w s := by
  induction s with
  | nil => rfl
  | cons c s ih =>
    by_cases h : c = '\n'
    · subst h
      obtain ⟨a, w, rfl⟩ := List.exists_cons_of_ne_nil ne
      have newline : (a == '\n') = false := beq_false_of_ne fun e ↦ hn (e ▸ List.mem_cons_self)
      have carriage : (a == '\r') = false := beq_false_of_ne fun e ↦ hr (e ▸ List.mem_cons_self)
      simp only [crlf_newline, hasInfix, List.isPrefixOf, newline, carriage, Bool.false_and,
        Bool.false_or, ih]
    · have here := isPrefixOf_crlf hn hr (c :: s)
      rw [crlf_other h] at here ⊢
      simp only [hasInfix, here, ih]

theorem chomp_cons {c : Char} (h : c ≠ '\r') (l : List Char) : chomp (c :: l) = c :: chomp l := by
  cases l with
  | nil => simp [chomp, h]
  | cons d l =>
    simp only [chomp, List.getLast?_cons_cons]
    split
    · rw [List.dropLast_cons_cons]
    · rfl

/-- Without carriage returns the lines are what stands between the newlines. -/
theorem map_chomp_splitOn {s : List Char} (h : '\r' ∉ s) :
    (s.splitOn '\n').map chomp = s.splitOn '\n' := by
  induction s with
  | nil => rfl
  | cons c s ih =>
    have rest := ih fun mem ↦ h (List.mem_cons_of_mem c mem)
    have other : c ≠ '\r' := fun e ↦ h (e ▸ List.mem_cons_self)
    by_cases e : c = '\n'
    · subst e
      rw [Source.Lines.splitOn_newline, List.map_cons, rest]
      rfl
    · obtain ⟨l, ls, parts⟩ := List.exists_cons_of_ne_nil (List.splitOn_ne_nil '\n' s)
      rw [parts, List.map_cons, List.cons.injEq] at rest
      rw [Source.Lines.splitOn_other e, parts, List.modifyHead_cons, List.map_cons,
        chomp_cons other, rest.1, rest.2]

/-- The carriage returns that were put in are taken away with the line ends. -/
theorem map_chomp_splitOn_crlf {s : List Char} (h : '\r' ∉ s) :
    ((crlf s).splitOn '\n').map chomp = s.splitOn '\n' := by
  induction s with
  | nil => rfl
  | cons c s ih =>
    have rest := ih fun mem ↦ h (List.mem_cons_of_mem c mem)
    have other : c ≠ '\r' := fun e ↦ h (e ▸ List.mem_cons_self)
    by_cases e : c = '\n'
    · subst e
      have carriage : '\r' ≠ '\n' := by decide
      rw [crlf_newline, Source.Lines.splitOn_other carriage, Source.Lines.splitOn_newline,
        List.modifyHead_cons, List.map_cons, rest, Source.Lines.splitOn_newline]
      rfl
    · obtain ⟨l, ls, parts⟩ := List.exists_cons_of_ne_nil (List.splitOn_ne_nil '\n' (crlf s))
      rw [parts, List.map_cons] at rest
      rw [crlf_other e, Source.Lines.splitOn_other e, parts, List.modifyHead_cons, List.map_cons,
        chomp_cons other, Source.Lines.splitOn_other e, ← rest, List.modifyHead_cons]

end Text

end ContractScan
