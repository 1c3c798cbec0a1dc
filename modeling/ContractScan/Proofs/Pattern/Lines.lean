import ContractScan.Pattern.Unlimited
import ContractScan.Proofs.Source.Lines

/-!
# The lines of matches

Told by the lines on which they start, the matches of a pattern need no offsets: the line goes up
by one at each newline (`map_lineOf_spansFrom`).
-/

namespace ContractScan.Pattern

/-- The lines on which the matches start that begin in `s`, which stands on the line `line`, after
`skip` more characters. -/
def linesFrom (p : Pattern Plain) (line skip : Nat) : List Char → List Nat
  | [] => if skip = 0 ∧ (p.rest? []).isSome then [line] else []
  | c :: s =>
    let next := if c = '\n' then line + 1 else line
    match skip with
    | skip + 1 => p.linesFrom next skip s
    | 0 =>
      match p.rest? (c :: s) with
      | some rest => line :: p.linesFrom next (s.length - rest.length) s
      | none => p.linesFrom next 0 s

/-- These are the lines of the offsets at which the matches start. -/
theorem map_lineOf_spansFrom (p : Pattern Plain) (r s : List Char) (skip : Nat) :
    ((p.spansFrom (Text.size r) skip s).map fun m ↦ Source.lineOf (r ++ s) m.start) =
      p.linesFrom (1 + r.count '\n') skip s := by
  induction s generalizing r skip with
  | nil =>
    rw [spansFrom, linesFrom]
    split
    · rw [List.map_singleton, Source.lineOf_size]
    · rfl
  | cons c s ih =>
    have next : (if c = '\n' then 1 + r.count '\n' + 1 else 1 + r.count '\n') =
        1 + (r ++ [c]).count '\n' := by
      rw [List.count_append, List.count_singleton]
      by_cases e : c = '\n'
      · simp [e]
        omega
      · simp [e]
    have tail (skip : Nat) :
        ((p.spansFrom (Text.size r + c.utf8Size) skip s).map
          fun m ↦ Source.lineOf (r ++ c :: s) m.start) =
            p.linesFrom (1 + (r ++ [c]).count '\n') skip s := by
      have size : Text.size (r ++ [c]) = Text.size r + c.utf8Size := by
        simp [Text.size_append, Text.size_cons, Text.size_nil]
      have rest := ih (r ++ [c]) skip
      rwa [size, List.append_assoc] at rest
    cases skip with
    | succ skip => simp only [spansFrom, linesFrom, tail, next]
    | zero =>
      simp only [spansFrom, linesFrom, next]
      cases p.rest? (c :: s) with
      | none => exact tail 0
      | some rest => simp only [List.map_cons, Source.lineOf_size, tail]

/-- Skipped characters count for their newlines only. -/
theorem linesFrom_skip (p : Pattern Plain) (line : Nat) {rest s : List Char} (h : rest <:+ s) :
    p.linesFrom line (s.length - rest.length) s =
      p.linesFrom (line + (s.count '\n' - rest.count '\n')) 0 rest := by
  obtain ⟨taken, rfl⟩ := h
  rw [List.length_append, Nat.add_sub_cancel, List.count_append, Nat.add_sub_cancel]
  induction taken generalizing line with
  | nil => rfl
  | cons c taken ih =>
    rw [List.cons_append, List.length_cons, linesFrom, ih]
    by_cases e : c = '\n'
    · subst e
      rw [if_pos rfl, List.count_cons_self, Nat.add_right_comm, Nat.add_assoc]
    · rw [if_neg e, List.count_cons_of_ne e]

end ContractScan.Pattern
