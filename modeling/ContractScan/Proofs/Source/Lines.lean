import ContractScan.Source.Lines

/-!
# Line numbers and line starts

The table of lines tells the line of an offset by a search among the line starts. That is one more
than the number of newlines before the offset (`lineAt_ofSource`), and there always is such a line
(`lineOf_le`).
-/

namespace ContractScan

/-- The characters of a text that begin before a byte offset. -/
def Text.before (offset : Nat) : List Char → List Char
  | [] => []
  | c :: s => if offset = 0 then [] else c :: before (offset - c.utf8Size) s

namespace Text

theorem before_zero (s : List Char) : before 0 s = [] := by
  cases s <;> rfl

theorem before_cons {offset : Nat} (h : 0 < offset) (c : Char) (s : List Char) :
    before offset (c :: s) = c :: before (offset - c.utf8Size) s := by
  have ne : offset ≠ 0 := by omega
  rw [before, if_neg ne]

/-- The characters before the offset of a place are those before the place. -/
theorem before_size (r s : List Char) : before (size r) (r ++ s) = r := by
  induction r with
  | nil => exact before_zero s
  | cons c r ih =>
    have pos := c.utf8Size_pos
    have rest : size (c :: r) - c.utf8Size = size r := by
      rw [size_cons, Nat.add_sub_cancel_left]
    rw [List.cons_append, before_cons (by rw [size_cons]; omega), rest, ih]

/-- What begins before an offset in the first part of a text does not depend on the second. -/
theorem before_append_of_le {offset : Nat} {r : List Char} (h : offset ≤ size r) (s : List Char) :
    before offset (r ++ s) = before offset r := by
  induction r generalizing offset with
  | nil =>
    obtain rfl := Nat.le_zero.mp h
    exact before_zero s
  | cons c r ih =>
    by_cases pos : 0 < offset
    · have rest : offset - c.utf8Size ≤ size r := by
        rw [size_cons] at h
        omega
      rw [List.cons_append, before_cons pos, before_cons pos, ih rest]
    · obtain rfl : offset = 0 := by omega
      rw [before_zero, before_zero]

/-- What begins before an offset in the second part of a text is the first part and what begins
before it there. -/
theorem before_size_add (r s : List Char) (offset : Nat) :
    before (size r + offset) (r ++ s) = r ++ before offset s := by
  induction r with
  | nil => rw [size_nil, Nat.zero_add, List.nil_append, List.nil_append]
  | cons c r ih =>
    have pos := c.utf8Size_pos
    have rest : size (c :: r) + offset - c.utf8Size = size r + offset := by
      rw [size_cons]
      omega
    rw [List.cons_append, before_cons (by rw [size_cons]; omega), rest, ih, List.cons_append]

/-- What begins before an offset begins the text. -/
theorem before_prefix (offset : Nat) (s : List Char) : before offset s <+: s := by
  induction s generalizing offset with
  | nil => exact List.prefix_refl []
  | cons c s ih =>
    rw [before]
    split
    · exact List.nil_prefix
    · exact (List.prefix_cons_inj c).mpr (ih _)

end Text

namespace Source

/-- The number of the line that holds a byte offset, counted from one: newlines end lines. -/
def lineOf (s : List Char) (offset : Nat) : Nat := 1 + (Text.before offset s).count '\n'

theorem one_le_lineOf (s : List Char) (offset : Nat) : 1 ≤ lineOf s offset := Nat.le_add_right 1 _

/-- The line at which the second part of a text begins counts from the newlines of the first. -/
theorem lineOf_size (r s : List Char) : lineOf (r ++ s) (Text.size r) = 1 + r.count '\n' := by
  rw [lineOf, Text.before_size]

/-- The lines of the first part of a text keep their numbers. -/
theorem lineOf_append_of_le {offset : Nat} {r : List Char} (h : offset ≤ Text.size r)
    (s : List Char) : lineOf (r ++ s) offset = lineOf r offset := by
  rw [lineOf, lineOf, Text.before_append_of_le h]

/-- The lines of the second part of a text count from the newlines of the first. -/
theorem lineOf_size_add (r s : List Char) (offset : Nat) :
    lineOf (r ++ s) (Text.size r + offset) = r.count '\n' + lineOf s offset := by
  rw [lineOf, lineOf, Text.before_size_add, List.count_append]
  omega

/-- Offsets further on are on the same line or a later one. -/
theorem lineOf_mono {s : List Char} {a b : Nat} (h : a ≤ b) : lineOf s a ≤ lineOf s b := by
  have more : (Text.before a s).count '\n' ≤ (Text.before b s).count '\n' := by
    induction s generalizing a b with
    | nil => exact Nat.le_refl _
    | cons c s ih =>
      by_cases pos : 0 < a
      · rw [Text.before_cons pos, Text.before_cons (by omega), List.count_cons, List.count_cons]
        have rest := ih (a := a - c.utf8Size) (b := b - c.utf8Size) (by omega)
        omega
      · rw [show a = 0 by omega, Text.before_zero]
        exact Nat.zero_le _
  rw [lineOf, lineOf]
  omega

/-- A text without newlines is one line. -/
theorem lineOf_of_not_mem {s : List Char} (oneLine : '\n' ∉ s) (offset : Nat) :
    lineOf s offset = 1 := by
  have none : '\n' ∉ Text.before offset s :=
    fun mem ↦ oneLine ((Text.before_prefix offset s).subset mem)
  rw [lineOf, List.count_eq_zero_of_not_mem none]

/-- A property of texts may be shown line by line. -/
theorem lines_induction {P : List Char → Prop} (last : ∀ line, '\n' ∉ line → P line)
    (next : ∀ line s, '\n' ∉ line → P s → P (line ++ '\n' :: s)) (s : List Char) : P s := by
  -- the induction goes through the text with the beginning of the current line in front
  suffices h : ∀ front, '\n' ∉ front → P (front ++ s) from h [] List.not_mem_nil
  induction s with
  | nil =>
    intro front inside
    rw [List.append_nil]
    exact last front inside
  | cons c s ih =>
    intro front inside
    by_cases newline : c = '\n'
    · subst newline
      exact next front s inside (ih [] List.not_mem_nil)
    · rw [List.append_cons]
      apply ih
      simp [inside, Ne.symm newline]

namespace Lines

/-- A newline ends a line. -/
theorem splitOn_newline (s : List Char) : ('\n' :: s).splitOn '\n' = [] :: s.splitOn '\n' := by
  rw [List.splitOn_cons_eq_if_modifyHead]
  simp

/-- Any other character belongs to the first line of the rest. -/
theorem splitOn_other {c : Char} (h : c ≠ '\n') (s : List Char) :
    (c :: s).splitOn '\n' = (s.splitOn '\n').modifyHead (List.cons c) := by
  rw [List.splitOn_cons_eq_if_modifyHead]
  simp [h]

/-- There is one line more than there are newlines. -/
theorem length_splitOn (s : List Char) : (s.splitOn '\n').length = 1 + s.count '\n' := by
  induction s with
  | nil => simp
  | cons c s ih =>
    by_cases h : c = '\n'
    · subst h
      rw [splitOn_newline, List.length_cons, ih, List.count_cons_self]
      omega
    · rw [splitOn_other h, List.length_modifyHead, ih, List.count_cons_of_ne h]

/-- No line starts before the first. -/
theorem le_of_mem_startsFrom {pos n : Nat} {ls : List (List Char)} (h : n ∈ startsFrom pos ls) :
    pos ≤ n := by
  induction ls generalizing pos with
  | nil => cases h
  | cons l ls ih =>
    rcases List.mem_cons.mp h with rfl | mem
    · exact Nat.le_refl n
    · have le := ih mem
      omega

/-- Lines start one after the other. -/
theorem pairwise_startsFrom (pos : Nat) (ls : List (List Char)) :
    (startsFrom pos ls).Pairwise (· ≤ ·) := by
  induction ls generalizing pos with
  | nil => exact List.Pairwise.nil
  | cons l ls ih =>
    apply List.pairwise_cons.mpr
    refine ⟨?_, ih _⟩
    intro n mem
    have le := le_of_mem_startsFrom mem
    omega

/-- Before the first line starts no line has started. -/
theorem countP_startsFrom_of_lt {pos offset : Nat} (h : offset < pos) (ls : List (List Char)) :
    (startsFrom pos ls).countP (fun n ↦ decide (n ≤ offset)) = 0 := by
  apply List.countP_eq_zero.mpr
  intro n mem le
  have first := le_of_mem_startsFrom mem
  have last := of_decide_eq_true le
  omega

/-- The lines that have started at an offset: the first, and one for each newline before it. -/
theorem countP_startsFrom {pos offset : Nat} (h : pos ≤ offset) (s : List Char) :
    (startsFrom pos (s.splitOn '\n')).countP (fun n ↦ decide (n ≤ offset)) =
      1 + (Text.before (offset - pos) s).count '\n' := by
  induction s generalizing pos with
  | nil => simp [startsFrom, Text.before, h]
  | cons c s ih =>
    have size := c.utf8Size_pos
    by_cases e : c = '\n'
    · subst e
      have one : '\n'.utf8Size = 1 := rfl
      rw [splitOn_newline, startsFrom, List.countP_cons_of_pos (by simpa using h), Text.size_nil]
      by_cases lt : pos < offset
      · rw [ih (by omega), Text.before_cons (by omega), List.count_cons_self, one,
          show offset - (pos + 0 + 1) = offset - pos - 1 by omega]
        omega
      · rw [countP_startsFrom_of_lt (by omega), show offset - pos = 0 by omega, Text.before_zero]
        rfl
    · rw [splitOn_other e]
      obtain ⟨l, ls, parts⟩ := List.exists_cons_of_ne_nil (List.splitOn_ne_nil '\n' s)
      have tail (n : Nat) (le : n ≤ offset) := @ih n le
      rw [parts] at tail ⊢
      rw [List.modifyHead_cons, startsFrom, List.countP_cons_of_pos (by simpa using h),
        Text.size_cons, show pos + (c.utf8Size + Text.size l) + 1 =
          pos + c.utf8Size + Text.size l + 1 by omega]
      by_cases le : pos + c.utf8Size ≤ offset
      · have rest := tail (pos + c.utf8Size) le
        rw [startsFrom, List.countP_cons_of_pos (by simpa using le)] at rest
        rw [Text.before_cons (by omega), List.count_cons_of_ne e,
          show offset - pos - c.utf8Size = offset - (pos + c.utf8Size) by omega]
        omega
      · rw [countP_startsFrom_of_lt (by omega)]
        by_cases lt : pos < offset
        · rw [Text.before_cons (by omega), List.count_cons_of_ne e,
            show offset - pos - c.utf8Size = 0 by omega, Text.before_zero]
          rfl
        · rw [show offset - pos = 0 by omega, Text.before_zero]
          rfl

/-- In an ascending list the numbers up to a bound come first. -/
theorem lt_countP_iff {l : List Nat} (h : l.Pairwise (· ≤ ·)) {bound i : Nat} (lt : i < l.length) :
    i < l.countP (fun n ↦ decide (n ≤ bound)) ↔ l[i] ≤ bound := by
  induction l generalizing i with
  | nil => simp at lt
  | cons a l ih =>
    obtain ⟨first, rest⟩ := List.pairwise_cons.mp h
    by_cases le : a ≤ bound
    · rw [List.countP_cons_of_pos (by simpa using le)]
      cases i with
      | zero => simp [le]
      | succ i =>
        rw [List.getElem_cons_succ, ← ih rest (Nat.lt_of_succ_lt_succ lt)]
        omega
    · have none : (a :: l).countP (fun n ↦ decide (n ≤ bound)) = 0 := by
        apply List.countP_eq_zero.mpr
        intro n mem small
        have small := of_decide_eq_true small
        rcases List.mem_cons.mp mem with rfl | mem
        · exact le small
        · exact le (Nat.le_trans (first n mem) small)
      rw [none]
      constructor
      · intro impossible
        omega
      · intro small
        cases i with
        | zero => exact absurd small le
        | succ i =>
          have mem := List.getElem_mem (Nat.lt_of_succ_lt_succ lt)
          exact absurd (Nat.le_trans (first _ mem) small) le

/-- The search finds how many numbers of an ascending list are up to a bound. -/
theorem countFirst_eq_countP {l : List Nat} (h : l.Pairwise (· ≤ ·)) (bound : Nat) :
    countFirst (fun i ↦ decide (l.getD i 0 ≤ bound)) 0 l.length =
      l.countP fun n ↦ decide (n ≤ bound) := by
  have getD (i : Nat) (lt : i < l.length) : l.getD i 0 = l[i] := by
    rw [List.getD_eq_getElem?_getD, List.getElem?_eq_getElem lt, Option.getD_some]
  have first (i j : Nat) (le : i ≤ j) (lt : j < 0 + l.length)
      (small : decide (l.getD j 0 ≤ bound) = true) : decide (l.getD i 0 ≤ bound) = true := by
    rw [decide_eq_true_eq, getD i (by omega)]
    rw [decide_eq_true_eq, getD j (by omega)] at small
    rcases Nat.eq_or_lt_of_le le with rfl | lt'
    · exact small
    · exact Nat.le_trans (List.pairwise_iff_getElem.mp h i j (by omega) (by omega) lt') small
  have below (i : Nat) (lt : i < l.length) :
      i < countFirst (fun i ↦ decide (l.getD i 0 ≤ bound)) 0 l.length ↔
        i < l.countP fun n ↦ decide (n ≤ bound) := by
    rw [lt_countFirst_iff _ 0 l.length i first lt, lt_countP_iff h lt, Nat.zero_add, getD i lt,
      decide_eq_true_eq]
  -- both are at most the length, and the same numbers below it are smaller than each of them
  have found := countFirst_le (fun i ↦ decide (l.getD i 0 ≤ bound)) 0 l.length
  have counted := List.countP_le_length (p := fun n ↦ decide (n ≤ bound)) (l := l)
  apply Nat.le_antisymm
  · apply Nat.le_of_not_lt
    intro more
    exact Nat.lt_irrefl _ ((below _ (by omega)).mp more)
  · apply Nat.le_of_not_lt
    intro more
    exact Nat.lt_irrefl _ ((below _ (by omega)).mpr more)

/-- The line found for an offset is the line that holds it. -/
theorem lineAt_ofSource (s : List Char) (offset : Nat) :
    (ofSource s).lineAt offset = lineOf s offset := by
  have search := countFirst_eq_countP (pairwise_startsFrom 0 (s.splitOn '\n')) offset
  rw [countP_startsFrom (Nat.zero_le offset), Nat.sub_zero] at search
  rw [lineOf, ← search, lineAt]
  simp only [ofSource, Array.getD_eq_getD_getElem?, List.getElem?_toArray, List.size_toArray,
    List.getD_eq_getElem?_getD]

/-- There are as many lines as line starts. -/
theorem size_texts_ofSource (s : List Char) : (ofSource s).texts.size = 1 + s.count '\n' := by
  simp [ofSource, length_splitOn]

/-- The line of an offset is a line of the text. -/
theorem lineOf_le (s : List Char) (offset : Nat) : lineOf s offset ≤ (ofSource s).texts.size := by
  rw [lineOf, size_texts_ofSource]
  have some := (Text.before_prefix offset s).sublist.count_le '\n'
  omega

/-- The snippet kept for a line of the text is that of the line. -/
theorem getD_snippets (ls : Lines) {line : Nat} (pos : 1 ≤ line) (le : line ≤ ls.texts.size) :
    (ls.snippets.getD (line - 1) (Thunk.pure "")).get = String.ofList (ls.snippet line) := by
  have lt : line - 1 < ls.texts.size := by omega
  simp only [snippets, Array.getD_eq_getD_getElem?, Array.getElem?_ofFn, lt, dif_pos,
    Option.getD_some, Thunk.get, Nat.sub_add_cancel pos]

end Lines

end Source

end ContractScan
