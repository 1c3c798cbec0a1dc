import ContractScan.Pattern.Unlimited

/-!
# Matches from left to right

Which parts of a text are matches, said without a search: each is the first that begins at or after
the end of the one before, and behind the last one none begins (`LeftToRight`). What matches, and
what a match leaves of the text, is any relation. If every match takes something, each place where
a match begins lies in one of the parts (`LeftToRight.exists_covers`), and for a pattern of this
kind they are just those that `Pattern.spansFrom` lists (`spansFrom_eq_iff`).
-/

namespace ContractScan

/-- The spans are those of the matches in `s`, which stands at the byte offset `pos`, from left to
right and without overlap, where `M s r` says that a match begins `s` and leaves `r`. -/
inductive LeftToRight (M : List Char → List Char → Prop) : Nat → List Char → List Span → Prop
  /-- No match begins anywhere. -/
  | done {pos : Nat} {s : List Char} (absent : ∀ t, t <:+ s → ∀ r, ¬M t r) : LeftToRight M pos s []
  /-- The first match begins after `skipped` and takes `taken`; the others come after it. -/
  | next {pos : Nat} {skipped taken rest : List Char} {spans : List Span}
      (absent : ∀ a b, skipped = a ++ b → b ≠ [] → ∀ r, ¬M (b ++ (taken ++ rest)) r)
      (here : M (taken ++ rest) rest)
      (later : LeftToRight M (pos + Text.size skipped + Text.size taken) rest spans) :
      LeftToRight M pos (skipped ++ (taken ++ rest))
        (⟨pos + Text.size skipped, pos + Text.size skipped + Text.size taken⟩ :: spans)

namespace LeftToRight

variable {M M' : List Char → List Char → Prop} {pos : Nat} {s : List Char} {spans : List Span}

theorem imp (same : ∀ t, t <:+ s → ∀ r, M t r ↔ M' t r) (h : LeftToRight M pos s spans) :
    LeftToRight M' pos s spans := by
  induction h with
  | done absent => exact .done fun t part r here ↦ absent t part r ((same t part r).mpr here)
  | @next _ skipped taken rest _ absent here _ ih =>
    have atMatch : taken ++ rest <:+ skipped ++ (taken ++ rest) := List.suffix_append _ _
    refine .next (fun a b e ne r begins ↦ absent a b e ne r ((same _ ⟨a, ?_⟩ r).mpr begins))
      ((same _ atMatch _).mp here)
      (ih fun t part ↦ same t ((part.trans (List.suffix_append _ _)).trans atMatch))
    rw [e, List.append_assoc]

/-- Relations that agree on every last part of the text have the same matches. -/
theorem congr (same : ∀ t, t <:+ s → ∀ r, M t r ↔ M' t r) :
    LeftToRight M pos s spans ↔ LeftToRight M' pos s spans :=
  ⟨imp same, imp fun t part r ↦ (same t part r).symm⟩

/-- Where nothing is listed no match begins. -/
theorem absent_of_nil (h : LeftToRight M pos s []) : ∀ t, t <:+ s → ∀ r, ¬M t r := by
  cases h with
  | done absent => exact absent

/-- Where no match begins nothing is listed. -/
theorem eq_nil (absent : ∀ t, t <:+ s → ∀ r, ¬M t r) (h : LeftToRight M pos s spans) :
    spans = [] := by
  cases h with
  | done => rfl
  | next _ here _ => exact absurd here (absent _ (List.suffix_append _ _) _)

/-- If every match takes something, each place where a match begins lies in one that is listed. -/
theorem exists_covers (takes : ∀ s, ¬M s s) (h : LeftToRight M pos s spans) {a t r : List Char}
    (e : s = a ++ t) (begins : M t r) :
    ∃ m ∈ spans, m.start ≤ pos + Text.size a ∧ pos + Text.size a < m.stop := by
  induction h generalizing a with
  | done absent => exact absurd begins (absent t ⟨a, e.symm⟩ r)
  | @next pos skipped taken rest spans absent here later ih =>
    have inMatch {b c : List Char} (part : taken = b ++ c) (ne : c ≠ []) :
        pos + Text.size skipped ≤ pos + Text.size (skipped ++ b) ∧
          pos + Text.size (skipped ++ b) < pos + Text.size skipped + Text.size taken := by
      have more := Text.size_pos ne
      rw [part, Text.size_append, Text.size_append]
      omega
    have afterMatch {b : List Char} (behind : rest = b ++ t) :
        ∃ m ∈ spans, m.start ≤ pos + Text.size (skipped ++ (taken ++ b)) ∧
          pos + Text.size (skipped ++ (taken ++ b)) < m.stop := by
      rw [Text.size_append, Text.size_append, ← Nat.add_assoc, ← Nat.add_assoc]
      exact ih behind
    rcases List.append_eq_append_iff.mp e with ⟨b, rfl, inside⟩ | ⟨b, front, behind⟩
    · rcases List.append_eq_append_iff.mp inside with ⟨c, rfl, behind⟩ | ⟨c, part, behind⟩
      · obtain ⟨m, mem, covers⟩ := afterMatch behind
        exact ⟨m, .tail _ mem, covers⟩
      · by_cases none : c = []
        · subst none
          rw [List.append_nil] at part
          obtain ⟨m, mem, covers⟩ := afterMatch (b := []) behind.symm
          rw [List.append_nil, part] at covers
          exact ⟨m, .tail _ mem, covers⟩
        · exact ⟨_, .head _, inMatch part none⟩
    · by_cases none : b = []
      · subst none
        have ne : taken ≠ [] := by
          rintro rfl
          exact takes _ here
        rw [List.append_nil] at front
        have covers := inMatch (b := []) rfl ne
        rw [List.append_nil, front] at covers
        exact ⟨_, .head _, front ▸ covers⟩
      · exact absurd (behind ▸ begins) (absent a b front none r)

/-- No match that is listed starts before the text. -/
theorem le_start (h : LeftToRight M pos s spans) {m : Span} (mem : m ∈ spans) : pos ≤ m.start := by
  induction h with
  | done => cases mem
  | next _ _ _ ih =>
    rcases List.mem_cons.mp mem with rfl | later
    · exact Nat.le_add_right _ _
    · have le := ih later
      omega

/-- Each match that is listed starts at the end of the one before or behind it. -/
theorem pairwise (h : LeftToRight M pos s spans) : spans.Pairwise fun a b ↦ a.stop ≤ b.start := by
  induction h with
  | done => exact .nil
  | next _ _ later ih => exact List.pairwise_cons.mpr ⟨fun m mem ↦ later.le_start mem, ih⟩

/-- If every match takes something, no more are listed than the text has bytes. -/
theorem length_le_size (takes : ∀ s, ¬M s s) (h : LeftToRight M pos s spans) :
    spans.length ≤ Text.size s := by
  induction h with
  | done => exact Nat.zero_le _
  | @next _ skipped taken rest _ _ here _ ih =>
    have ne : taken ≠ [] := by
      rintro rfl
      exact takes rest here
    have more := Text.size_pos ne
    rw [List.length_cons, Text.size_append, Text.size_append]
    omega

/-- A character where no match begins may stand in front. -/
theorem prepend {c : Char} (absent : ∀ r, ¬M (c :: s) r)
    (h : LeftToRight M (pos + c.utf8Size) s spans) : LeftToRight M pos (c :: s) spans := by
  cases h with
  | done none =>
    refine .done fun t part r ↦ ?_
    rcases List.suffix_cons_iff.mp part with rfl | part
    · exact absent r
    · exact none t part r
  | @next _ skipped taken rest spans none here later =>
    have start : pos + c.utf8Size + Text.size skipped = pos + Text.size (c :: skipped) := by
      rw [Text.size_cons, Nat.add_assoc]
    rw [start] at later ⊢
    refine @next M pos (c :: skipped) taken rest spans (fun a b e ne r ↦ ?_) here later
    cases a with
    | nil =>
      rw [List.nil_append] at e
      exact e ▸ absent r
    | cons d a => exact none a b (List.cons.inj e).2 ne r

end LeftToRight

namespace Pattern

variable {p : Pattern Plain} {pos : Nat} {s t rest : List Char} {spans : List Span}

/-- Skipped characters count for their bytes only. -/
theorem spansFrom_skip (p : Pattern Plain) (pos : Nat) (taken rest : List Char) :
    p.spansFrom pos taken.length (taken ++ rest) = p.spansFrom (pos + Text.size taken) 0 rest := by
  induction taken generalizing pos with
  | nil => rfl
  | cons c taken ih =>
    rw [List.cons_append, List.length_cons, spansFrom, ih, Text.size_cons, Nat.add_assoc]

/-- A match is listed, and after it the matches of what it leaves. -/
theorem spansFrom_of_rest? {taken : List Char} (ne : taken ≠ [])
    (here : p.rest? (taken ++ rest) = some rest) :
    p.spansFrom pos 0 (taken ++ rest) =
      ⟨pos, pos + Text.size taken⟩ :: p.spansFrom (pos + Text.size taken) 0 rest := by
  cases taken with
  | nil => exact absurd rfl ne
  | cons c taken =>
    have length : (taken ++ rest).length - rest.length = taken.length := by
      rw [List.length_append, Nat.add_sub_cancel]
    rw [List.cons_append] at here ⊢
    rw [spansFrom, here]
    simp only
    rw [length, spansFrom_skip, ← List.cons_append, Text.size_append, Nat.add_sub_cancel,
      Text.size_cons, Nat.add_assoc]

/-- Where no match begins the search goes on. -/
theorem spansFrom_append {skipped : List Char}
    (absent : ∀ a b, skipped = a ++ b → b ≠ [] → p.rest? (b ++ t) = none) :
    p.spansFrom pos 0 (skipped ++ t) = p.spansFrom (pos + Text.size skipped) 0 t := by
  induction skipped generalizing pos with
  | nil => rfl
  | cons c skipped ih =>
    have here := absent [] (c :: skipped) rfl (List.cons_ne_nil c skipped)
    rw [List.cons_append] at here ⊢
    rw [spansFrom, here]
    simp only
    rw [ih fun a b e ne ↦ absent (c :: a) b (by rw [e]; rfl) ne, Text.size_cons, Nat.add_assoc]

/-- Without a match there is nothing to list. -/
theorem spansFrom_eq_nil (absent : ∀ t, t <:+ s → p.rest? t = none) : p.spansFrom pos 0 s = [] := by
  have nothing : p.rest? [] = none := absent [] (List.nil_suffix)
  have all : p.spansFrom pos 0 (s ++ []) = p.spansFrom (pos + Text.size s) 0 [] :=
    spansFrom_append fun a b e _ ↦ by
      rw [List.append_nil]
      exact absent b ⟨a, e.symm⟩
  rw [List.append_nil] at all
  rw [all, spansFrom, nothing]
  rfl

/-- The spans that are listed are those of matches from left to right. -/
theorem leftToRight_spansFrom (takes : ∀ s, p.rest? s ≠ some s) (pos : Nat) (s : List Char) :
    LeftToRight (fun s r ↦ p.rest? s = some r) pos s (p.spansFrom pos 0 s) := by
  -- a match may take many characters, so the induction is on the length of what is left
  induction length : s.length using Nat.strongRecOn generalizing pos s with
  | ind n ih =>
    cases found : p.rest? s with
    | some rest =>
      obtain ⟨taken, rfl⟩ := p.rest?_suffix found
      have ne : taken ≠ [] := by
        rintro rfl
        exact takes rest found
      have shorter : rest.length < n := by
        rw [← length, List.length_append]
        exact Nat.lt_add_of_pos_left (List.length_pos_iff.mpr ne)
      rw [spansFrom_of_rest? ne found]
      exact @LeftToRight.next _ pos [] taken rest _
        (fun a b e some ↦ absurd (List.append_eq_nil_iff.mp e.symm).2 some) found
        (ih rest.length shorter _ rest rfl)
    | none =>
      have absent (r : List Char) : ¬p.rest? s = some r := by
        rw [found]
        exact nofun
      cases s with
      | nil =>
        rw [spansFrom_eq_nil fun t part ↦ (List.eq_nil_of_suffix_nil part) ▸ found]
        exact .done fun t part r ↦ (List.eq_nil_of_suffix_nil part) ▸ absent r
      | cons c s =>
        rw [spansFrom, found]
        exact (ih s.length (length ▸ Nat.lt_succ_self _) _ s rfl).prepend absent

/-- Of a pattern that takes something with every match the listed spans are those of its matches
from left to right. -/
theorem spansFrom_eq_iff (takes : ∀ s, p.rest? s ≠ some s) :
    p.spansFrom pos 0 s = spans ↔ LeftToRight (fun s r ↦ p.rest? s = some r) pos s spans := by
  constructor
  · rintro rfl
    exact leftToRight_spansFrom takes pos s
  · intro h
    induction h with
    | done absent =>
      exact spansFrom_eq_nil fun t part ↦ Option.eq_none_iff_forall_ne_some.mpr (absent t part)
    | next absent here _ ih =>
      rw [spansFrom_append fun a b e some ↦
        Option.eq_none_iff_forall_ne_some.mpr (absent a b e some), spansFrom_of_rest? ?_ here, ih]
      rintro rfl
      exact takes _ here

/-- What a search finds, unless its budget is spent, are the matches from left to right. -/
theorem spans_matchesIn_iff {M : List Char → List Char → Prop} (takes : ∀ s, p.rest? s ≠ some s)
    (same : ∀ t, t <:+ s → ∀ r, p.rest? t = some r ↔ M t r) {limit : Option Budget}
    (whole : (p.matchesIn limit (Places.ofList s)).exhausted = false) :
    (p.matchesIn limit (Places.ofList s)).spans = spans ↔ LeftToRight M 0 s spans := by
  rw [p.spans_matchesIn limit s whole, spansFrom_eq_iff takes]
  exact LeftToRight.congr same

end Pattern

end ContractScan
