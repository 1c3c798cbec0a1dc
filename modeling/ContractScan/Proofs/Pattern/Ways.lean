import ContractScan.Pattern.First
import ContractScan.Proofs.Text.Spelling
import Mathlib.Data.List.Infix
import Mathlib.Data.List.TakeWhile

/-!
# The ways to match

A pattern may match in several ways where a text begins. They are listed here in the order of
preference, each by what it leaves of the text (`Pattern.ways`). The outcome of a pattern is that of
the first way with which the rest can go on (`first_eq_findSome?`), so the preferred match is the
head of the list (`rest?_eq_head?`). Which ways there are is told by one lemma for each form of
pattern.
-/

namespace ContractScan

namespace Preference

variable {α β : Type}

/-- The ways to go on with a run and the way to end it here, the preferred first. -/
def arrange (pref : Preference) (further : List α) (here : α) : List α :=
  match pref with
  | .longest => further ++ [here]
  | .shortest => here :: further

theorem mem_arrange {pref : Preference} {further : List α} {here a : α} :
    a ∈ pref.arrange further here ↔ a ∈ further ∨ a = here := by
  cases pref with
  | longest => rw [arrange, List.mem_append, List.mem_singleton]
  | shortest => rw [arrange, List.mem_cons, or_comm]

theorem map_arrange (pref : Preference) (further : List α) (here : α) (f : α → β) :
    (pref.arrange further here).map f = pref.arrange (further.map f) (f here) := by
  cases pref with
  | longest => rw [arrange, List.map_append, List.map_singleton, arrange]
  | shortest => rfl

theorem findSome?_arrange (pref : Preference) (further : List α) (here : α) (k : α → Option β) :
    (pref.arrange further here).findSome? k = pref.pick (further.findSome? k) (k here) := by
  cases pref with
  | longest => rw [arrange, List.findSome?_append, List.findSome?_singleton, pick]
  | shortest =>
    rw [arrange, List.findSome?_cons, pick]
    cases k here <;> rfl

end Preference

namespace CharClass

@[simp] theorem holds_blank (x : Char) : blank.holds x = Text.isBlank x := rfl

@[simp] theorem holds_word (x : Char) : word.holds x = Text.isWord x := rfl

@[simp] theorem holds_digit (x : Char) : digit.holds x = Text.isDigit x := rfl

@[simp] theorem holds_within {lo hi x : Char} :
    (within lo hi).holds x = true ↔ lo ≤ x ∧ x ≤ hi := by
  rw [holds, Bool.and_eq_true, decide_eq_true_eq, decide_eq_true_eq]

/-- The characters of a text are other than the excluded one if this is not among them. -/
theorem forall_except_singleton {x : Char} {t : List Char} :
    (∀ c ∈ t, (except [x]).holds c = true) ↔ x ∉ t := by
  simp only [holds, List.contains_eq_mem, List.mem_singleton, Bool.not_eq_true',
    decide_eq_false_iff_not]
  exact ⟨fun other mem ↦ other x mem rfl, fun absent c mem e ↦ absent (e ▸ mem)⟩

/-- What is left behind all other characters is nothing or begins with the excluded one. -/
theorem eq_of_mem_head?_dropWhile_except {x : Char} (t : List Char) :
    ∀ c ∈ (t.dropWhile (except [x]).holds).head?, c = x := by
  intro c head
  have stop := List.head?_dropWhile_not (except [x]).holds t
  rw [Option.mem_def.mp head] at stop
  simpa [holds] using stop

end CharClass

namespace Pattern

variable {τ : Type} {ahead : τ → List Char → Bool} {p q : Pattern τ} {s r : List Char}

/-- What is left after each way to match a run of the class. -/
def runWays (pref : Preference) (c : CharClass) : List Char → List (List Char)
  | [] => [[]]
  | x :: s => pref.arrange (if c.holds x then runWays pref c s else []) (x :: s)

/-- What is left after each way to match where `s` begins, the preferred way first. -/
def ways (ahead : τ → List Char → Bool) : Pattern τ → List Char → List (List Char)
  | .empty, s => [s]
  | .one c, s =>
    match s with
    | [] => []
    | x :: r => if c.holds x then [r] else []
  | .run pref c, s => runWays pref c s
  | .seq p q, s => (p.ways ahead s).flatMap (q.ways ahead)
  | .alt p q, s => p.ways ahead s ++ q.ways ahead s
  | .notAhead l, s => if ahead l s then [] else [s]

theorem findSome?_flatMap {α β γ : Type} (l : List α) (f : α → List β) (k : β → Option γ) :
    (l.flatMap f).findSome? k = l.findSome? fun a ↦ (f a).findSome? k := by
  induction l with
  | nil => rfl
  | cons a l ih =>
    rw [List.flatMap_cons, List.findSome?_append, ih, List.findSome?_cons]
    cases (f a).findSome? k <;> rfl

theorem firstRun_eq_findSome? {α : Type} (pref : Preference) (c : CharClass)
    (k : List Char → Option α) (s : List Char) :
    firstRun pref c k s = (runWays pref c s).findSome? k := by
  induction s with
  | nil => exact List.findSome?_singleton.symm
  | cons x s ih =>
    rw [firstRun, runWays, Preference.findSome?_arrange, ih]
    split <;> rfl

/-- The outcome of the preferred way to match is that of the first way with which the rest can go
on. -/
theorem first_eq_findSome? {α : Type} (p : Pattern τ) (k : List Char → Option α) (s : List Char) :
    p.first ahead k s = (p.ways ahead s).findSome? k := by
  induction p generalizing k s with
  | empty => exact List.findSome?_singleton.symm
  | one c =>
    cases s with
    | nil => rfl
    | cons x r =>
      simp only [first, ways]
      split
      · exact List.findSome?_singleton.symm
      · rfl
  | run pref c => exact firstRun_eq_findSome? pref c k s
  | seq p q ihp ihq => rw [first, ihp, ways, findSome?_flatMap, funext (ihq k)]
  | alt p q ihp ihq => rw [first, ihp, ihq, ways, List.findSome?_append]
  | notAhead l =>
    simp only [first, ways]
    split
    · rfl
    · exact List.findSome?_singleton.symm

/-- The preferred match is the first of the ways. -/
theorem rest?_eq_head? (p : Pattern Plain) (s : List Char) :
    p.rest? s = (p.ways Plain.begins s).head? := by
  rw [rest?, first_eq_findSome?, ← List.head?_filterMap, List.filterMap_some]

/-- If there is some way to match, there is a preferred one. -/
theorem exists_rest?_of_mem_ways {p : Pattern Plain} (mem : r ∈ p.ways Plain.begins s) :
    ∃ rest, p.rest? s = some rest := by
  rw [rest?_eq_head?]
  cases h : p.ways Plain.begins s with
  | nil => exact absurd (h ▸ mem) List.not_mem_nil
  | cons rest _ => exact ⟨rest, rfl⟩

theorem mem_ways_of_rest? {p : Pattern Plain} (h : p.rest? s = some r) :
    r ∈ p.ways Plain.begins s :=
  List.mem_of_head? (rest?_eq_head? p s ▸ h)

/-- If there is at most one way to match, it is the preferred one. -/
theorem rest?_eq_some_iff {p : Pattern Plain} (unique : ∀ a ∈ p.ways Plain.begins s,
    ∀ b ∈ p.ways Plain.begins s, a = b) :
    p.rest? s = some r ↔ r ∈ p.ways Plain.begins s := by
  rw [rest?_eq_head?]
  constructor
  · exact List.mem_of_head?
  · intro mem
    cases h : p.ways Plain.begins s with
    | nil =>
      rw [h] at mem
      cases mem
    | cons a l =>
      rw [List.head?_cons, unique a (h ▸ .head l) r mem]

/-! The ways of each form of pattern. -/

@[simp] theorem mem_ways_empty : r ∈ (empty : Pattern τ).ways ahead s ↔ s = r := by
  rw [ways, List.mem_singleton, eq_comm]

@[simp] theorem mem_ways_one {c : CharClass} :
    r ∈ (one c).ways ahead s ↔ ∃ x, c.holds x = true ∧ s = x :: r := by
  cases s with
  | nil => simp [ways]
  | cons x s =>
    rw [ways]
    split
    next holds =>
      rw [List.mem_singleton]
      constructor
      · rintro rfl
        exact ⟨x, holds, rfl⟩
      · rintro ⟨_, -, e⟩
        exact (List.cons.inj e).2.symm
    next fails =>
      refine ⟨fun mem ↦ absurd mem List.not_mem_nil, ?_⟩
      rintro ⟨_, holds, e⟩
      exact absurd ((List.cons.inj e).1 ▸ holds) fails

theorem mem_runWays {pref : Preference} {c : CharClass} :
    r ∈ runWays pref c s ↔ ∃ w, (∀ x ∈ w, c.holds x = true) ∧ s = w ++ r := by
  induction s with
  | nil =>
    rw [runWays, List.mem_singleton]
    constructor
    · rintro rfl
      exact ⟨[], List.forall_mem_nil _, rfl⟩
    · rintro ⟨w, -, e⟩
      exact (List.append_eq_nil_iff.mp e.symm).2
  | cons x s ih =>
    rw [runWays, Preference.mem_arrange]
    constructor
    · rintro (further | rfl)
      · split at further
        next holds =>
          obtain ⟨w, all, rfl⟩ := ih.mp further
          exact ⟨x :: w, List.forall_mem_cons.mpr ⟨holds, all⟩, rfl⟩
        next => cases further
      · exact ⟨[], List.forall_mem_nil _, rfl⟩
    · rintro ⟨w, all, e⟩
      cases w with
      | nil => exact .inr e.symm
      | cons y w =>
        obtain ⟨rfl, rfl⟩ := List.cons.inj e
        obtain ⟨holds, all⟩ := List.forall_mem_cons.mp all
        rw [if_pos holds]
        exact .inl (ih.mpr ⟨w, all, rfl⟩)

/-- What is no letter stands for itself. -/
theorem mem_ways_char {d : Char} (same : Text.foldCase d = d) (other : d.isAlpha = false) :
    r ∈ (char d).ways ahead s ↔ s = d :: r := by
  have only (x : Char) : (CharClass.like d).holds x = true ↔ x = d := by
    rw [CharClass.holds, beq_iff_eq, same]
    exact ⟨fun e ↦ Text.eq_of_foldCase_eq e other, fun e ↦ by rw [e, same]⟩
  simp only [char, mem_ways_one, only, exists_eq_left]

@[simp] theorem mem_ways_run {pref : Preference} {c : CharClass} :
    r ∈ (run pref c).ways ahead s ↔ ∃ w, (∀ x ∈ w, c.holds x = true) ∧ s = w ++ r :=
  mem_runWays

@[simp] theorem mem_ways_seq :
    r ∈ (seq p q).ways ahead s ↔ ∃ m, m ∈ p.ways ahead s ∧ r ∈ q.ways ahead m :=
  List.mem_flatMap

@[simp] theorem mem_ways_alt :
    r ∈ (alt p q).ways ahead s ↔ r ∈ p.ways ahead s ∨ r ∈ q.ways ahead s :=
  List.mem_append

@[simp] theorem mem_ways_notAhead {l : τ} :
    r ∈ (notAhead l).ways ahead s ↔ ahead l s = false ∧ s = r := by
  rw [ways]
  split
  next there => simp [there]
  next absent => simp [absent, eq_comm]

theorem mem_ways_ofChars {cs : List Char} :
    r ∈ (ofChars cs).ways ahead s ↔
      ∃ t, t.map Text.foldCase = cs.map Text.foldCase ∧ s = t ++ r := by
  induction cs generalizing s with
  | nil => simp [ofChars]
  | cons c cs ih =>
    simp only [ofChars, mem_ways_seq, mem_ways_one, ih, CharClass.holds, beq_iff_eq]
    constructor
    · rintro ⟨m, ⟨x, same, rfl⟩, t, rest, rfl⟩
      exact ⟨x :: t, by rw [List.map_cons, List.map_cons, same, rest], rfl⟩
    · rintro ⟨t, all, rfl⟩
      cases t with
      | nil => cases all
      | cons x t =>
        obtain ⟨same, rest⟩ := List.cons.inj all
        exact ⟨t ++ r, ⟨x, same, rfl⟩, t, rest, rfl⟩

/-- The ways to match a word are its spellings. -/
@[simp] theorem mem_ways_text {w : String} :
    r ∈ (text w).ways ahead s ↔ ∃ t, Text.Spells w t ∧ s = t ++ r :=
  mem_ways_ofChars

@[simp] theorem mem_ways_many {c : CharClass} :
    r ∈ (many c).ways ahead s ↔ ∃ w, w ≠ [] ∧ (∀ x ∈ w, c.holds x = true) ∧ s = w ++ r := by
  simp only [many, mem_ways_seq, mem_ways_one, mem_ways_run]
  constructor
  · rintro ⟨m, ⟨x, holds, rfl⟩, w, all, rfl⟩
    exact ⟨x :: w, List.cons_ne_nil x w, List.forall_mem_cons.mpr ⟨holds, all⟩, rfl⟩
  · rintro ⟨w, ne, all, rfl⟩
    cases w with
    | nil => exact absurd rfl ne
    | cons x w =>
      obtain ⟨holds, all⟩ := List.forall_mem_cons.mp all
      exact ⟨w ++ r, ⟨x, holds, rfl⟩, w, all, rfl⟩

@[simp] theorem mem_ways_most {c : CharClass} :
    r ∈ (most c).ways ahead s ↔ ∃ w, (∀ x ∈ w, c.holds x = true) ∧ s = w ++ r :=
  mem_ways_run

@[simp] theorem mem_ways_blanks :
    r ∈ blanks.ways ahead s ↔ ∃ w, (∀ x ∈ w, Text.isBlank x = true) ∧ s = w ++ r :=
  mem_ways_run

@[simp] theorem mem_ways_optional :
    r ∈ (optional p).ways ahead s ↔ r ∈ p.ways ahead s ∨ s = r := by
  rw [optional, mem_ways_alt, mem_ways_empty]

theorem mem_ways_oneOf {ps : List (Pattern τ)} :
    r ∈ (oneOf p ps).ways ahead s ↔ ∃ q ∈ p :: ps, r ∈ q.ways ahead s := by
  induction ps generalizing p with
  | nil => simp [oneOf]
  | cons q ps ih => rw [oneOf, mem_ways_alt, ih, List.exists_mem_cons_iff (a := p)]

/-- The ways to match one of several words are their spellings. -/
@[simp] theorem mem_ways_anyText {w : String} {ws : List String} :
    r ∈ (anyText w ws).ways ahead s ↔ ∃ t, Text.SpellsAny (w :: ws) t ∧ s = t ++ r := by
  rw [anyText, mem_ways_oneOf, ← List.map_cons]
  simp only [List.mem_map, exists_exists_and_eq_and, mem_ways_text, Text.SpellsAny]
  constructor
  · rintro ⟨v, mem, t, spells, e⟩
    exact ⟨t, ⟨v, mem, spells⟩, e⟩
  · rintro ⟨t, ⟨v, mem, spells⟩, e⟩
    exact ⟨v, mem, t, spells, e⟩

@[simp] theorem mem_ways_sequence_singleton :
    r ∈ (sequence [p]).ways ahead s ↔ r ∈ p.ways ahead s := Iff.rfl

@[simp] theorem mem_ways_sequence_cons {ps : List (Pattern τ)} :
    r ∈ (sequence (p :: q :: ps)).ways ahead s ↔
      ∃ m, m ∈ p.ways ahead s ∧ r ∈ (sequence (q :: ps)).ways ahead m :=
  mem_ways_seq

/-- The ways to match two lists of patterns are those to match the one and then the other. -/
theorem mem_ways_sequence_append {ps qs : List (Pattern τ)} :
    r ∈ (sequence (ps ++ qs)).ways ahead s ↔
      ∃ m, m ∈ (sequence ps).ways ahead s ∧ r ∈ (sequence qs).ways ahead m := by
  -- the end of the list is no case of its own
  have cons (p : Pattern τ) (ps : List (Pattern τ)) (s r : List Char) :
      r ∈ (sequence (p :: ps)).ways ahead s ↔
        ∃ m, m ∈ p.ways ahead s ∧ r ∈ (sequence ps).ways ahead m := by
    cases ps with
    | nil => simp [sequence, eq_comm]
    | cons q ps => exact mem_ways_sequence_cons
  induction ps generalizing s with
  | nil => simp [sequence]
  | cons p ps ih =>
    simp only [List.cons_append, cons, ih]
    constructor
    · rintro ⟨m, first, m', then', last⟩
      exact ⟨m', ⟨m, first, then'⟩, last⟩
    · rintro ⟨m', ⟨m, first, then'⟩, last⟩
      exact ⟨m, first, m', then', last⟩

/-! What is left. -/

/-- What a match leaves of a text is a last part of it. -/
theorem suffix_of_mem_ways (h : r ∈ p.ways ahead s) : r <:+ s := by
  induction p generalizing s r with
  | empty => rw [mem_ways_empty.mp h]
  | one c =>
    obtain ⟨x, -, rfl⟩ := mem_ways_one.mp h
    exact List.suffix_cons x r
  | run pref c =>
    obtain ⟨w, -, rfl⟩ := mem_ways_run.mp h
    exact List.suffix_append w r
  | seq p q ihp ihq =>
    obtain ⟨m, first, second⟩ := mem_ways_seq.mp h
    exact (ihq second).trans (ihp first)
  | alt p q ihp ihq => exact (mem_ways_alt.mp h).elim ihp ihq
  | notAhead l => rw [(mem_ways_notAhead.mp h).2]

/-- If a pattern that does not look ahead may take nothing of some text, it may do so of any. -/
theorem self_mem_ways (plain : p.looksAhead = false) (h : s ∈ p.ways ahead s) (t : List Char) :
    t ∈ p.ways ahead t := by
  induction p generalizing s with
  | empty => exact mem_ways_empty.mpr rfl
  | one c =>
    obtain ⟨x, -, e⟩ := mem_ways_one.mp h
    exact absurd e (List.cons_ne_self x s).symm
  | run pref c => exact mem_ways_run.mpr ⟨[], List.forall_mem_nil _, rfl⟩
  | seq p q ihp ihq =>
    rw [looksAhead, Bool.or_eq_false_iff] at plain
    obtain ⟨m, first, second⟩ := mem_ways_seq.mp h
    obtain rfl : m = s :=
      (suffix_of_mem_ways first).eq_of_length_le (suffix_of_mem_ways second).length_le
    exact mem_ways_seq.mpr ⟨t, ihp plain.1 first, ihq plain.2 second⟩
  | alt p q ihp ihq =>
    rw [looksAhead, Bool.or_eq_false_iff] at plain
    exact mem_ways_alt.mpr ((mem_ways_alt.mp h).imp (ihp plain.1) (ihq plain.2))
  | notAhead l => cases plain

/-- A pattern that does not look ahead takes something with every match if it does not match the
empty text. -/
theorem rest?_ne_self {p : Pattern Plain} (plain : p.looksAhead = false)
    (nothing : p.rest? [] = none) (s : List Char) : p.rest? s ≠ some s := by
  intro found
  obtain ⟨r, here⟩ := exists_rest?_of_mem_ways (self_mem_ways plain (mem_ways_of_rest? found) [])
  rw [nothing] at here
  cases here

/-- Whether the pattern takes a character with every match, whatever it looks ahead for. -/
def consumes : Pattern τ → Bool
  | .empty | .run _ _ | .notAhead _ => false
  | .one _ => true
  | .seq p q => p.consumes || q.consumes
  | .alt p q => p.consumes && q.consumes

/-- Of a pattern that takes a character each match leaves less than there was. -/
theorem length_lt_of_mem_ways (h : p.consumes = true) (mem : r ∈ p.ways ahead s) :
    r.length < s.length := by
  induction p generalizing s r with
  | empty => cases h
  | one c =>
    obtain ⟨x, -, rfl⟩ := mem_ways_one.mp mem
    exact Nat.lt_succ_self r.length
  | run pref c => cases h
  | seq p q ihp ihq =>
    obtain ⟨m, first, second⟩ := mem_ways_seq.mp mem
    have front := (suffix_of_mem_ways first).length_le
    have back := (suffix_of_mem_ways second).length_le
    rw [consumes, Bool.or_eq_true] at h
    rcases h with h | h
    · exact Nat.lt_of_le_of_lt back (ihp h first)
    · exact Nat.lt_of_lt_of_le (ihq h second) front
  | alt p q ihp ihq =>
    rw [consumes, Bool.and_eq_true] at h
    exact (mem_ways_alt.mp mem).elim (ihp h.1) (ihq h.2)
  | notAhead l => cases h

theorem rest?_ne_self_of_consumes {p : Pattern Plain} (h : p.consumes = true) (s : List Char) :
    p.rest? s ≠ some s :=
  fun found ↦ Nat.lt_irrefl _ (length_lt_of_mem_ways h (mem_ways_of_rest? found))

/-! What the rest decides. -/

/-- After a pattern with at most one way to match, the rest decides alone. -/
theorem rest?_seq_iff {p q : Pattern Plain} (unique : ∀ a ∈ p.ways Plain.begins s,
    ∀ b ∈ p.ways Plain.begins s, a = b) :
    (seq p q).rest? s = some r ↔ ∃ m ∈ p.ways Plain.begins s, q.rest? m = some r := by
  have first : (seq p q).rest? s = (p.ways Plain.begins s).findSome? q.rest? :=
    first_eq_findSome? p q.rest? s
  rw [first]
  constructor
  · exact List.exists_of_findSome?_eq_some
  · rintro ⟨m, mem, found⟩
    cases h : (p.ways Plain.begins s).findSome? q.rest? with
    | none =>
      rw [List.findSome?_eq_none_iff.mp h m mem] at found
      cases found
    | some r' =>
      obtain ⟨m', mem', found'⟩ := List.exists_of_findSome?_eq_some h
      rw [← found', unique m' mem' m mem, found]

/-- The rest goes on where what is looked for does not follow. -/
theorem rest?_seq_notAhead {l : Plain} {q : Pattern Plain} :
    (seq (notAhead l) q).rest? s = some r ↔ l.begins s = false ∧ q.rest? s = some r := by
  have first : (seq (notAhead l) q).rest? s = if l.begins s then none else q.rest? s := rfl
  rw [first]
  cases l.begins s <;> simp

theorem firstRun_eq_none_iff {α : Type} {pref : Preference} {c : CharClass}
    {k : List Char → Option α} : firstRun pref c k s = none ↔
      ∀ a b, s = a ++ b → (∀ x ∈ a, c.holds x = true) → k b = none := by
  rw [firstRun_eq_findSome?, List.findSome?_eq_none_iff]
  constructor
  · intro none a b e all
    exact none b (mem_runWays.mpr ⟨a, all, e⟩)
  · intro none b mem
    obtain ⟨a, all, e⟩ := mem_runWays.mp mem
    exact none a b e all

/-- A run that is as long as possible ends at the last place from which `k` can go on. -/
theorem firstRun_longest_eq_some_iff {α : Type} {c : CharClass} {k : List Char → Option α} {y : α} :
    firstRun .longest c k s = some y ↔ ∃ w m, s = w ++ m ∧ (∀ x ∈ w, c.holds x = true) ∧
      k m = some y ∧ ∀ a b, m = a ++ b → a ≠ [] → (∀ x ∈ a, c.holds x = true) → k b = none := by
  induction s with
  | nil =>
    constructor
    · intro here
      exact ⟨[], [], rfl, List.forall_mem_nil _, here,
        fun a b e ne ↦ absurd (List.append_eq_nil_iff.mp e.symm).1 ne⟩
    · rintro ⟨w, m, e, -, here, -⟩
      rw [(List.append_eq_nil_iff.mp e.symm).2] at here
      exact here
  | cons x s ih =>
    rw [firstRun, Preference.pick, Option.or_eq_some_iff]
    constructor
    · rintro (further | ⟨stuck, here⟩)
      · split at further
        next holds =>
          obtain ⟨w, m, rfl, all, found, last⟩ := ih.mp further
          exact ⟨x :: w, m, rfl, List.forall_mem_cons.mpr ⟨holds, all⟩, found, last⟩
        next => cases further
      · refine ⟨[], x :: s, rfl, List.forall_mem_nil _, here, fun a b e ne all ↦ ?_⟩
        cases a with
        | nil => exact absurd rfl ne
        | cons y a =>
          obtain ⟨rfl, tail⟩ := List.cons.inj e
          obtain ⟨holds, all⟩ := List.forall_mem_cons.mp all
          rw [if_pos holds] at stuck
          exact firstRun_eq_none_iff.mp stuck a b tail all
    · rintro ⟨w, m, e, all, found, last⟩
      cases w with
      | nil =>
        rw [List.nil_append] at e
        subst e
        refine .inr ⟨?_, found⟩
        split
        next holds =>
          exact firstRun_eq_none_iff.mpr fun a b e all ↦ last (x :: a) b (by rw [e]; rfl)
            (List.cons_ne_nil x a) (List.forall_mem_cons.mpr ⟨holds, all⟩)
        next => rfl
      | cons y w =>
        obtain ⟨rfl, rfl⟩ := List.cons.inj e
        obtain ⟨holds, all⟩ := List.forall_mem_cons.mp all
        rw [if_pos holds]
        exact .inl (ih.mpr ⟨w, m, rfl, all, found, last⟩)

/-- A run that is as long as possible takes all there is if `k` can go on behind that. -/
theorem firstRun_longest_of_dropWhile {α : Type} {c : CharClass} {k : List Char → Option α} {y : α}
    (h : k (s.dropWhile c.holds) = some y) : firstRun .longest c k s = some y := by
  refine firstRun_longest_eq_some_iff.mpr ⟨s.takeWhile c.holds, s.dropWhile c.holds,
    List.takeWhile_append_dropWhile.symm, fun x ↦ List.mem_takeWhile_imp, h, ?_⟩
  intro a b e ne all
  cases a with
  | nil => exact absurd rfl ne
  | cons x a =>
    have stop := List.head?_dropWhile_not c.holds s
    rw [e, List.cons_append, List.head?_cons] at stop
    simp [all x (.head a)] at stop

/-- As much of the line as possible is all of it. -/
theorem rest?_line (s : List Char) :
    (line : Pattern Plain).rest? s = some (s.dropWhile CharClass.inLine.holds) :=
  firstRun_longest_of_dropWhile rfl

/-- After a run that is as long as possible, the rest goes on at the last place where it can. -/
theorem rest?_seq_most {c : CharClass} {q : Pattern Plain} :
    (seq (most c) q).rest? s = some r ↔ ∃ w m, s = w ++ m ∧ (∀ x ∈ w, c.holds x = true) ∧
      q.rest? m = some r ∧
      ∀ a b, m = a ++ b → a ≠ [] → (∀ x ∈ a, c.holds x = true) → q.rest? b = none :=
  firstRun_longest_eq_some_iff

end Pattern

/-- A plain pattern begins a text if there is some way to match. -/
theorem Plain.begins_iff {p : Plain} {s : List Char} :
    p.begins s = true ↔ ∃ r, r ∈ p.ways Empty.elim s := by
  rw [begins, Pattern.first_eq_findSome?, List.findSome?_isSome_iff]
  simp

end ContractScan
