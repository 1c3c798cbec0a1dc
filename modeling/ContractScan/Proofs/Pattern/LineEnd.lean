import ContractScan.Proofs.Pattern.Lines
import ContractScan.Proofs.Text.LineEnd

/-!
# Patterns and line ends

A pattern that is even at line ends takes corresponding parts of a text and of the text with a
carriage return before each newline (`first_meets`), so its matches start on the same lines
(`linesFrom_crlf`). Three things have to be seen to. A run that takes newlines also takes carriage
returns. A single character is neither, except in a gap, which takes one character of a class and
then as many more of it as the rest allows. And what follows a gap may not need the newline that the
gap could have left to it.
-/

namespace ContractScan

/-- A place of a text and the places of the changed text that stand for it: the same place, and
before a newline also the one inside the line end. -/
inductive Text.Meets : List Char → List Char → Prop
  | same (s : List Char) : Meets s (crlf s)
  | inside (s : List Char) : Meets ('\n' :: s) ('\n' :: crlf s)

namespace Text.Meets

variable {s s' : List Char}

/-- What is left has the same newlines. -/
theorem count (h : Meets s s') : s'.count '\n' = s.count '\n' := by
  cases h with
  | same s => exact count_crlf s
  | inside s => rw [List.count_cons_self, List.count_cons_self, count_crlf]

/-- Apart from the line ends the places are the same. -/
theorem eq_of_head {c : Char} (h : Meets (c :: s) s') (ne : c ≠ '\n') : s' = c :: crlf s := by
  cases h with
  | same => exact crlf_other ne s
  | inside => exact absurd rfl ne

/-- A last part of the text stands for a last part of the changed text. -/
theorem suffix {t : List Char} (h : Meets s s') (part : s <:+ t) : s' <:+ crlf t := by
  cases h with
  | same s => exact crlf_suffix part
  | inside s => exact (List.suffix_cons '\r' _).trans (crlf_suffix part)

end Text.Meets

namespace Preference

variable {R : α → β → Prop} {further here : Option α} {further' here' inside' : Option β}

theorem rel_or {x y : Option α} {x' y' : Option β} (hx : Option.Rel R x x')
    (hy : Option.Rel R y y') : Option.Rel R (x.or y) (x'.or y') := by
  cases hx with
  | some r => exact .some r
  | none => exact hy

theorem rel_pick (pref : Preference) (hf : Option.Rel R further further')
    (hh : Option.Rel R here here') :
    Option.Rel R (pref.pick further here) (pref.pick further' here') := by
  cases pref with
  | longest => exact rel_or hf hh
  | shortest => exact rel_or hh hf

/-- Inside a line end there may be one more way to end a run, to the same outcome. -/
theorem rel_pick_inside (pref : Preference) (hf : Option.Rel R further further')
    (hi : Option.Rel R here inside') (hh : Option.Rel R here here') :
    Option.Rel R (pref.pick further here) (pref.pick (pref.pick further' inside') here') := by
  cases pref with
  | longest =>
    cases hf with
    | some r => exact .some r
    | none =>
      cases hi with
      | some r => exact .some r
      | none => exact hh
  | shortest =>
    cases hh with
    | some r => exact .some r
    | none =>
      cases hi
      exact hf

end Preference

namespace Pattern

/-- What goes on before a newline also goes on after it. -/
def PassesNewline (k : List Char → Option α) : Prop :=
  ∀ s, (k ('\n' :: s)).isSome = true → (k s).isSome = true

/-- Whether the pattern, where it begins at a newline, also begins after it; `next` tells the same
of what follows the pattern. -/
def passesNewline : Pattern τ → (next : Bool) → Bool
  | .empty, next | .run _ _, next => next
  | .one c, _ => !c.holds '\n'
  | .seq p q, next => p.passesNewline (q.passesNewline next)
  | .alt p q, next => p.passesNewline next && q.passesNewline next
  | .notAhead _, _ => false

/-- Whether the pattern cannot begin at a newline. -/
def avoidsNewline : Pattern τ → Bool
  | .one c => !c.holds '\n'
  | .seq p _ => p.avoidsNewline
  | .alt p q => p.avoidsNewline && q.avoidsNewline
  | .empty | .run _ _ | .notAhead _ => false

/-- Whether the pattern takes at least one character, and as many as the rest allows, of a class
with both halves of a line end. -/
def isGap : Pattern τ → Bool
  | .seq (.one c) (.run .longest d) => decide (c = d) && c.holds '\n' && c.holds '\r'
  | _ => false

/-- Whether the pattern takes the same for both forms of line ends; `next` tells whether what
follows it passes newlines, and `ahead` holds of what may be looked ahead for. -/
def evenAtLineEnds (ahead : τ → Bool) : Pattern τ → (next : Bool) → Bool
  | .empty, _ => true
  | .one c, _ => !c.holds '\n' && !c.holds '\r'
  | .run _ c, _ => !c.holds '\n' || c.holds '\r'
  | .seq p q, next =>
    p.evenAtLineEnds ahead (q.passesNewline next) && q.evenAtLineEnds ahead next ||
      (seq p q).isGap && next
  | .alt p q, next => p.evenAtLineEnds ahead next && q.evenAtLineEnds ahead next
  | .notAhead l, _ => ahead l

theorem exists_of_isGap {p : Pattern τ} (h : p.isGap = true) :
    ∃ c : CharClass, p = .seq (.one c) (.run .longest c) ∧ c.holds '\n' = true ∧
      c.holds '\r' = true := by
  unfold isGap at h
  split at h
  · simp only [Bool.and_eq_true, decide_eq_true_eq] at h
    obtain ⟨⟨rfl, newline⟩, carriage⟩ := h
    exact ⟨_, rfl, newline, carriage⟩
  · cases h

/-- A run goes on where its rest does. -/
theorem isSome_firstRun (pref : Preference) (c : CharClass) {k : List Char → Option α}
    {s : List Char} (h : (k s).isSome = true) : (firstRun pref c k s).isSome = true := by
  cases s with
  | nil => exact h
  | cons x s =>
    rw [firstRun]
    cases pref with
    | longest => rw [Preference.pick, Option.isSome_or, h, Bool.or_true]
    | shortest => rw [Preference.pick, Option.isSome_or, h, Bool.true_or]

theorem passesNewline_firstRun (pref : Preference) (c : CharClass) {k : List Char → Option α}
    (hk : PassesNewline k) : PassesNewline (firstRun pref c k) := by
  intro s h
  have ways : (if c.holds '\n' then firstRun pref c k s else none).isSome = true ∨
      (k ('\n' :: s)).isSome = true := by
    cases pref with
    | longest =>
      rwa [firstRun, Preference.pick, Option.isSome_or, Bool.or_eq_true] at h
    | shortest =>
      rwa [firstRun, Preference.pick, Option.isSome_or, Bool.or_eq_true, or_comm] at h
  rcases ways with further | here
  · split at further
    · exact further
    · cases further
  · exact isSome_firstRun pref c (hk s here)

/-- A pattern passes newlines as its form tells. -/
theorem passesNewline_first (ahead : τ → List Char → Bool) (p : Pattern τ) {next : Bool}
    (h : p.passesNewline next = true) {k : List Char → Option α}
    (hk : next = true → PassesNewline k) : PassesNewline (p.first ahead k) := by
  induction p generalizing next k with
  | empty => exact hk h
  | one c =>
    intro s some
    rw [passesNewline, Bool.not_eq_true'] at h
    simp [first, h] at some
  | run pref c => exact passesNewline_firstRun pref c (hk h)
  | seq p q ihp ihq => exact ihp h fun hq ↦ ihq hq hk
  | alt p q ihp ihq =>
    rw [passesNewline, Bool.and_eq_true] at h
    intro s some
    rw [first, Option.isSome_or, Bool.or_eq_true] at some ⊢
    rcases some with one | other
    · exact .inl (ihp h.1 hk s one)
    · exact .inr (ihq h.2 hk s other)
  | notAhead l => cases h

/-- At a newline nothing is taken by a pattern that avoids newlines. -/
theorem first_newline (ahead : τ → List Char → Bool) {p : Pattern τ} (h : p.avoidsNewline = true)
    (k : List Char → Option α) (s : List Char) : p.first ahead k ('\n' :: s) = none := by
  induction p generalizing k with
  | empty => cases h
  | one c =>
    rw [avoidsNewline, Bool.not_eq_true'] at h
    simp [first, h]
  | run pref c => cases h
  | seq p q ihp _ => exact ihp h _
  | alt p q ihp ihq =>
    rw [avoidsNewline, Bool.and_eq_true] at h
    rw [first, ihp h.1, ihq h.2, Option.or_none]
  | notAhead l => cases h

variable {R : α → β → Prop} {k : List Char → Option α} {k' : List Char → Option β}

open Text (Meets crlf)

/-- A run takes the same for both forms of line ends if it takes no half of one alone. -/
theorem firstRun_meets (pref : Preference) {c : CharClass}
    (hc : c.holds '\n' = true → c.holds '\r' = true)
    (hk : ∀ {s s'}, Meets s s' → Option.Rel R (k s) (k' s')) {s s' : List Char} (h : Meets s s') :
    Option.Rel R (firstRun pref c k s) (firstRun pref c k' s') := by
  have same (s : List Char) :
      Option.Rel R (firstRun pref c k s) (firstRun pref c k' (crlf s)) := by
    induction s with
    | nil => exact hk (.same [])
    | cons x s ih =>
      have further : Option.Rel R (if c.holds x then firstRun pref c k s else none)
          (if c.holds x then firstRun pref c k' (crlf s) else none) := by
        split
        · exact ih
        · exact .none
      by_cases e : x = '\n'
      · subst e
        rw [Text.crlf_newline, firstRun, firstRun, firstRun]
        by_cases carriage : c.holds '\r' = true
        · rw [if_pos carriage]
          exact Preference.rel_pick_inside pref further (hk (.inside s)) (hk (.same _))
        · rw [if_neg carriage, if_neg fun newline ↦ carriage (hc newline)]
          exact Preference.rel_pick pref .none (hk (.same _))
      · have here := hk (.same (x :: s))
        rw [Text.crlf_other e] at here ⊢
        rw [firstRun, firstRun]
        exact Preference.rel_pick pref further here
  cases h with
  | same s => exact same s
  | inside s =>
    rw [firstRun, firstRun]
    apply Preference.rel_pick pref _ (hk (.inside s))
    split
    · exact same s
    · exact .none

/-- A longest run that takes newlines does not need the one it stands at, if its rest does not. -/
theorem firstRun_newline {c : CharClass} (hc : c.holds '\n' = true) (hk : PassesNewline k)
    (s : List Char) : firstRun .longest c k ('\n' :: s) = firstRun .longest c k s := by
  rw [firstRun, if_pos hc, Preference.pick]
  cases run : firstRun .longest c k s with
  | some a => rfl
  | none =>
    rw [Option.none_or]
    cases here : k ('\n' :: s) with
    | none => rfl
    | some a =>
      have goes := isSome_firstRun .longest c (hk s (by rw [here]; rfl))
      rw [run] at goes
      cases goes

/-- A gap takes the same for both forms of line ends. -/
theorem first_gap_meets (ahead : τ → List Char → Bool) {c : CharClass}
    (newline : c.holds '\n' = true) (carriage : c.holds '\r' = true)
    (hk : ∀ {s s'}, Meets s s' → Option.Rel R (k s) (k' s')) (pass : PassesNewline k')
    {s s' : List Char} (h : Meets s s') :
    Option.Rel R ((seq (.one c) (.run .longest c)).first ahead k s)
      ((seq (.one c) (.run .longest c)).first ahead k' s') := by
  have run (s : List Char) :
      Option.Rel R (firstRun .longest c k s) (firstRun .longest c k' (crlf s)) :=
    firstRun_meets .longest (fun _ ↦ carriage) hk (.same s)
  cases h with
  | same s =>
    cases s with
    | nil => exact .none
    | cons x s =>
      by_cases e : x = '\n'
      · subst e
        simp only [Text.crlf_newline, first, if_pos newline, if_pos carriage,
          firstRun_newline newline pass]
        exact run s
      · rw [Text.crlf_other e]
        simp only [first]
        split
        · exact run s
        · exact .none
  | inside s =>
    simp only [first, if_pos newline]
    exact run s

/-- An even pattern takes the same for both forms of line ends, if the rest does. -/
theorem first_meets {ok : τ → Bool} {ahead : τ → List Char → Bool}
    (ha : ∀ l, ok l = true → ∀ {s s'}, Meets s s' → ahead l s = ahead l s') (p : Pattern τ)
    {next : Bool} (even : p.evenAtLineEnds ok next = true)
    (hk : ∀ {s s'}, Meets s s' → Option.Rel R (k s) (k' s'))
    (pass : next = true → PassesNewline k') {s s' : List Char} (h : Meets s s') :
    Option.Rel R (p.first ahead k s) (p.first ahead k' s') := by
  induction p generalizing next k k' s s' with
  | empty => exact hk h
  | one c =>
    simp only [evenAtLineEnds, Bool.and_eq_true, Bool.not_eq_true'] at even
    cases h with
    | same s =>
      cases s with
      | nil => exact .none
      | cons x s =>
        by_cases e : x = '\n'
        · subst e
          simp only [Text.crlf_newline, first, even]
          exact .none
        · rw [Text.crlf_other e]
          simp only [first]
          split
          · exact hk (.same s)
          · exact .none
    | inside s =>
      simp only [first, even]
      exact .none
  | run pref c =>
    simp only [evenAtLineEnds, Bool.or_eq_true, Bool.not_eq_true'] at even
    apply firstRun_meets pref _ hk h
    intro newline
    rcases even with no | carriage
    · rw [no] at newline
      cases newline
    · exact carriage
  | seq p q ihp ihq =>
    simp only [evenAtLineEnds, Bool.or_eq_true, Bool.and_eq_true] at even
    rcases even with ⟨evenp, evenq⟩ | ⟨gap, last⟩
    · exact ihp evenp (fun h ↦ ihq evenq hk pass h)
        (fun hq ↦ q.passesNewline_first ahead hq pass) h
    · obtain ⟨c, e, newline, carriage⟩ := exists_of_isGap gap
      rw [e]
      exact first_gap_meets ahead newline carriage hk (pass last) h
  | alt p q ihp ihq =>
    simp only [evenAtLineEnds, Bool.and_eq_true] at even
    exact Preference.rel_or (ihp even.1 hk pass h) (ihq even.2 hk pass h)
  | notAhead l =>
    simp only [first, ← ha l even h]
    split
    · exact .none
    · exact hk h

end Pattern

open Text (Meets crlf)

/-- What is looked ahead for is there for both forms of line ends or for neither. -/
theorem Plain.begins_meets {l : Plain} (even : l.evenAtLineEnds Empty.elim true = true)
    {s s' : List Char} (h : Meets s s') : l.begins s = l.begins s' := by
  have rel : Option.Rel (fun _ _ ↦ True) (l.first Empty.elim (fun _ ↦ some ()) s)
      (l.first Empty.elim (fun _ ↦ some ()) s') :=
    Pattern.first_meets (fun e ↦ e.elim) l even (fun _ ↦ .some trivial) (fun _ _ _ ↦ rfl) h
  rw [begins, begins]
  generalize l.first Empty.elim (fun _ ↦ some ()) s = x at rel
  generalize l.first Empty.elim (fun _ ↦ some ()) s' = x' at rel
  cases rel <;> rfl

namespace Pattern

variable {p : Pattern Plain}

/-- What is left after a match corresponds. -/
theorem rest?_meets (even : p.evenAtLineEnds (fun l ↦ l.evenAtLineEnds Empty.elim true) true = true)
    {s s' : List Char} (h : Meets s s') : Option.Rel Meets (p.rest? s) (p.rest? s') :=
  p.first_meets (fun _ ok _ _ h ↦ Plain.begins_meets ok h) even (fun h ↦ .some h)
    (fun _ _ _ ↦ rfl) h

/-- A newline ends its line and begins no match. -/
theorem linesFrom_newline (avoids : p.avoidsNewline = true) (line : Nat) (s : List Char) :
    p.linesFrom line 0 ('\n' :: s) = p.linesFrom (line + 1) 0 s := by
  have newline : p.rest? ('\n' :: s) = none := first_newline _ avoids some s
  rw [linesFrom, newline]
  rfl

/-- A pair of a carriage return and a newline ends its line and begins no match, since the newline
that it stands for begins none. -/
theorem linesFrom_lineEnd
    (even : p.evenAtLineEnds (fun l ↦ l.evenAtLineEnds Empty.elim true) true = true)
    (avoids : p.avoidsNewline = true) (line : Nat) (s : List Char) :
    p.linesFrom line 0 ('\r' :: '\n' :: crlf s) = p.linesFrom (line + 1) 0 (crlf s) := by
  have newline : p.rest? ('\n' :: s) = none := first_newline _ avoids some s
  have here := rest?_meets even (.same ('\n' :: s))
  rw [newline, Text.crlf_newline] at here
  have carriage : p.rest? ('\r' :: '\n' :: crlf s) = none := by
    cases found : p.rest? ('\r' :: '\n' :: crlf s) with
    | none => rfl
    | some _ =>
      rw [found] at here
      cases here
  have past : p.linesFrom line 0 ('\r' :: '\n' :: crlf s) =
      p.linesFrom line 0 ('\n' :: crlf s) := by
    rw [linesFrom, carriage]
    rfl
  rw [past, linesFrom_newline avoids]

/-- The matches start on the same lines for both forms of line ends. -/
theorem linesFrom_meets
    (even : p.evenAtLineEnds (fun l ↦ l.evenAtLineEnds Empty.elim true) true = true)
    (avoids : p.avoidsNewline = true) (line : Nat) {s s' : List Char} (h : Meets s s') :
    p.linesFrom line 0 s = p.linesFrom line 0 s' := by
  -- a match may take many characters, so the induction is on the length of what is left
  induction n : s.length using Nat.strongRecOn generalizing line s s' with
  | ind n ih =>
    cases s with
    | nil =>
      cases h
      rfl
    | cons x s =>
      subst n
      have tail (line : Nat) : p.linesFrom line 0 s = p.linesFrom line 0 (crlf s) :=
        ih s.length (Nat.lt_succ_self _) line (.same s) rfl
      by_cases e : x = '\n'
      · subst e
        rw [linesFrom_newline avoids, tail]
        cases h with
        | same => rw [Text.crlf_newline, linesFrom_lineEnd even avoids]
        | inside => rw [linesFrom_newline avoids]
      · have here := rest?_meets even h
        obtain rfl := h.eq_of_head e
        rw [linesFrom, linesFrom, if_neg e]
        cases found : p.rest? (x :: s) with
        | none =>
          cases found' : p.rest? (x :: crlf s) with
          | none => exact tail line
          | some rest' =>
            rw [found, found'] at here
            cases here
        | some rest =>
          cases found' : p.rest? (x :: crlf s) with
          | none =>
            rw [found, found'] at here
            cases here
          | some rest' =>
            rw [found, found'] at here
            have left : Meets rest rest' := by
              cases here with
              | some left => exact left
            simp only [List.cons.injEq, true_and]
            rcases List.suffix_cons_iff.mp (p.rest?_suffix found) with rfl | part
            · -- an empty match: the search goes on at the next place
              obtain rfl := left.eq_of_head e
              rw [List.length_cons, List.length_cons, Nat.sub_eq_zero_of_le (Nat.le_succ _),
                Nat.sub_eq_zero_of_le (Nat.le_succ _)]
              exact tail line
            · rw [p.linesFrom_skip line part, p.linesFrom_skip line (left.suffix part),
                Text.count_crlf, left.count]
              exact ih rest.length (Nat.lt_succ_of_le part.length_le) _ left rfl

end Pattern

end ContractScan
