import ContractScan.Proofs.Pattern.Spans
import ContractScan.Proofs.Pattern.Ways

/-!
# Matches and separators

Where no match goes on behind a separator, a text may be searched part by part. A pattern that takes
no such character stays on one side of each (`rest?_append_cons`), and one that takes it at its very
end only stops right behind it (`rest?_append_of_endsAt`). Either way the matches in a text are
those up to the separator and, shifted, those behind it (`spansFrom_append_cons`,
`spansFrom_append_of_endsAt`). A look ahead that stays on the line finds nothing where the whole
line has been taken (`rest?_line_notAhead`).
-/

namespace ContractScan

/-- The same part of a text with `n` more bytes in front. -/
def Span.shift (n : Nat) (m : Span) : Span := ⟨n + m.start, n + m.stop⟩

namespace Pattern

variable {τ : Type} {ahead : τ → List Char → Bool} {x : Char}

/-- Whether the pattern is the empty text. -/
def isEmpty : Pattern τ → Bool
  | .empty => true
  | _ => false

/-- Whether the pattern takes no character `x` and does not look ahead. -/
def excludes (x : Char) : Pattern τ → Bool
  | .empty => true
  | .one c | .run _ c => !c.holds x
  | .seq p q | .alt p q => p.excludes x && q.excludes x
  | .notAhead _ => false

/-- Whether the pattern takes no character `x` but as the last of a match, and does not look
ahead. -/
def endsAt (x : Char) : Pattern τ → Bool
  | .empty | .one _ => true
  | .run _ c => !c.holds x
  | .seq p q => if q.isEmpty then p.endsAt x else p.excludes x && q.endsAt x
  | .alt p q => p.endsAt x && q.endsAt x
  | .notAhead _ => false

theorem eq_empty_of_isEmpty {p : Pattern τ} (h : p.isEmpty = true) : p = .empty := by
  cases p <;> first | rfl | cases h

/-- A run of other characters goes as far as a separator. -/
theorem runWays_append_cons {pref : Preference} {c : CharClass} (other : c.holds x = false)
    (a b : List Char) :
    runWays pref c (a ++ x :: b) = (runWays pref c a).map (· ++ x :: b) := by
  induction a with
  | nil =>
    have stop : runWays pref c (x :: b) = pref.arrange [] (x :: b) := by simp [runWays, other]
    rw [List.nil_append, stop]
    cases pref <;> rfl
  | cons y a ih =>
    rw [List.cons_append, runWays, runWays, ih, Preference.map_arrange]
    split <;> rfl

/-- The ways to match in front of a separator, for a pattern that does not take it. -/
theorem ways_append_cons {p : Pattern τ} (h : p.excludes x = true) (a b : List Char) :
    p.ways ahead (a ++ x :: b) = (p.ways ahead a).map (· ++ x :: b) := by
  induction p generalizing a with
  | empty => rfl
  | one c =>
    rw [excludes, Bool.not_eq_true'] at h
    cases a with
    | nil => simp [ways, h]
    | cons y a =>
      simp only [List.cons_append, ways]
      split <;> rfl
  | run pref c =>
    rw [excludes, Bool.not_eq_true'] at h
    exact runWays_append_cons h a b
  | seq p q ihp ihq =>
    rw [excludes, Bool.and_eq_true] at h
    rw [ways, ways, ihp h.1, List.flatMap_map, List.map_flatMap, funext (ihq h.2)]
  | alt p q ihp ihq =>
    rw [excludes, Bool.and_eq_true] at h
    rw [ways, ways, ihp h.1, ihq h.2, List.map_append]
  | notAhead l => cases h

/-- The ways to match up to a separator, for a pattern that ends with it if it takes it. -/
theorem ways_append_of_endsAt {p : Pattern τ} (h : p.endsAt x = true) (a b : List Char) :
    p.ways ahead (a ++ x :: b) = (p.ways ahead (a ++ [x])).map (· ++ b) := by
  have step {p : Pattern τ} (h : p.excludes x = true) (a : List Char) :
      p.ways ahead (a ++ x :: b) = (p.ways ahead (a ++ [x])).map (· ++ b) := by
    rw [ways_append_cons h, ways_append_cons h, List.map_map]
    apply List.map_congr_left
    intro r _
    simp
  induction p generalizing a with
  | empty => simp [ways]
  | one c =>
    cases a with
    | nil =>
      simp only [List.nil_append, ways]
      split <;> rfl
    | cons y a =>
      simp only [List.cons_append, ways]
      split <;> simp
  | run pref c =>
    have other : (run pref c : Pattern τ).excludes x = true := h
    exact step other a
  | seq p q ihp ihq =>
    rw [endsAt] at h
    split at h
    · next none =>
      have alone (s : List Char) : (seq p q).ways ahead s = p.ways ahead s := by
        rw [eq_empty_of_isEmpty none, ways]
        simp [ways]
      rw [alone, alone, ihp h]
    · rw [Bool.and_eq_true] at h
      rw [ways, ways, ways_append_cons h.1, ways_append_cons h.1, List.flatMap_map,
        List.flatMap_map, List.map_flatMap, funext (ihq h.2)]
  | alt p q ihp ihq =>
    rw [endsAt, Bool.and_eq_true] at h
    rw [ways, ways, ihp h.1, ihq h.2, List.map_append]
  | notAhead l => cases h

/-- At a separator a pattern that does not take it is as good as at the end of the text. -/
theorem begins_separator {l : Plain} (h : l.excludes x = true) (b : List Char) :
    l.begins (x :: b) = l.begins [] := by
  have ways : l.ways Empty.elim (x :: b) = (l.ways Empty.elim []).map (· ++ x :: b) :=
    ways_append_cons h [] b
  apply Bool.eq_iff_iff.mpr
  simp only [Plain.begins_iff, ways, List.mem_map]
  exact ⟨fun ⟨_, r, mem, _⟩ ↦ ⟨r, mem⟩, fun ⟨r, mem⟩ ↦ ⟨_, r, mem, rfl⟩⟩

/-- Where all of a line has been taken, a look ahead that stays on the line does not matter if it
would find nothing at the end of a text. -/
theorem rest?_line_notAhead {l : Plain} (h : l.excludes '\n' = true) (nothing : l.begins [] = false)
    (s : List Char) : (seq line (notAhead l)).rest? s = (line : Pattern Plain).rest? s := by
  have free : l.begins (s.dropWhile CharClass.inLine.holds) = false := by
    have stop := CharClass.eq_of_mem_head?_dropWhile_except (x := '\n') s
    rw [← CharClass.inLine] at stop
    cases behind : s.dropWhile CharClass.inLine.holds with
    | nil => exact nothing
    | cons c b =>
      rw [behind] at stop
      rw [stop c rfl, begins_separator h, nothing]
  have here : (notAhead l).first Plain.begins some (s.dropWhile CharClass.inLine.holds) =
      some (s.dropWhile CharClass.inLine.holds) := by
    rw [first, free]
    rfl
  rw [rest?_line]
  exact firstRun_longest_of_dropWhile here

variable {p : Pattern Plain} {pos skip : Nat} {u v : List Char}

/-- The preferred match in front of a separator, for a pattern that does not take it. -/
theorem rest?_append_cons (h : p.excludes x = true) (a b : List Char) :
    p.rest? (a ++ x :: b) = (p.rest? a).map (· ++ x :: b) := by
  rw [rest?_eq_head?, rest?_eq_head?, ways_append_cons h, List.head?_map]

/-- The preferred match up to a separator, for a pattern that ends with it if it takes it. -/
theorem rest?_append_of_endsAt (h : p.endsAt x = true) (a b : List Char) :
    p.rest? (a ++ x :: b) = (p.rest? (a ++ [x])).map (· ++ b) := by
  rw [rest?_eq_head?, rest?_eq_head?, ways_append_of_endsAt h, List.head?_map]

/-- Patterns that take the same have the same matches. -/
theorem spansFrom_congr {q : Pattern Plain} (same : ∀ s, p.rest? s = q.rest? s) (pos skip : Nat)
    (s : List Char) : p.spansFrom pos skip s = q.spansFrom pos skip s := by
  induction s generalizing pos skip with
  | nil => rw [spansFrom, spansFrom, same]
  | cons c s ih =>
    cases skip with
    | succ skip => exact ih _ skip
    | zero => simp only [spansFrom, same, ih]

/-- A text further on has the same matches, shifted. -/
theorem spansFrom_add (p : Pattern Plain) (n pos skip : Nat) (s : List Char) :
    p.spansFrom (n + pos) skip s = (p.spansFrom pos skip s).map (Span.shift n) := by
  induction s generalizing pos skip with
  | nil =>
    rw [spansFrom, spansFrom]
    split <;> rfl
  | cons c s ih =>
    cases skip with
    | succ skip =>
      rw [spansFrom, spansFrom, Nat.add_assoc]
      exact ih _ skip
    | zero =>
      simp only [spansFrom, Nat.add_assoc, ih]
      cases p.rest? (c :: s) <;> rfl

/-- If no match that begins in the first part of a text depends on the second part, both are
searched apart. -/
theorem spansFrom_append_of_rest? (nothing : p.rest? [] = none)
    (apart : ∀ a b, u = a ++ b → b ≠ [] → p.rest? (b ++ v) = (p.rest? b).map (· ++ v))
    (within : skip ≤ u.length) :
    p.spansFrom pos skip (u ++ v) =
      p.spansFrom pos skip u ++ p.spansFrom (pos + Text.size u) 0 v := by
  induction u generalizing pos skip with
  | nil =>
    obtain rfl := Nat.le_zero.mp within
    rw [List.nil_append, spansFrom, nothing]
    rfl
  | cons c u ih =>
    have later {skip : Nat} (within : skip ≤ u.length) :
        p.spansFrom (pos + c.utf8Size) skip (u ++ v) = p.spansFrom (pos + c.utf8Size) skip u ++
          p.spansFrom (pos + Text.size (c :: u)) 0 v := by
      rw [Text.size_cons, ← Nat.add_assoc]
      exact ih (fun a b e ↦ apart (c :: a) b (by rw [e]; rfl)) within
    cases skip with
    | succ skip => exact later (Nat.le_of_succ_le_succ within)
    | zero =>
      have here := apart [] (c :: u) rfl (List.cons_ne_nil c u)
      rw [List.cons_append] at here ⊢
      rw [spansFrom, spansFrom, here]
      cases found : p.rest? (c :: u) with
      | none => exact later (Nat.zero_le _)
      | some rest =>
        have skipped : (u ++ v).length - (rest ++ v).length = u.length - rest.length := by
          rw [List.length_append, List.length_append, Nat.add_sub_add_right]
        have size : Text.size (c :: (u ++ v)) - Text.size (rest ++ v) =
            Text.size (c :: u) - Text.size rest := by
          rw [← List.cons_append, Text.size_append, Text.size_append, Nat.add_sub_add_right]
        simp only [Option.map_some]
        rw [skipped, size, later (Nat.sub_le _ _)]
        rfl

/-- The matches of a pattern that does not take the separator are those in front of it and those
behind it. -/
theorem spansFrom_append_cons (h : p.excludes x = true) (nothing : p.rest? [] = none)
    (a b : List Char) :
    p.spansFrom 0 0 (a ++ x :: b) =
      p.spansFrom 0 0 a ++ (p.spansFrom 0 0 b).map (Span.shift (Text.size a + x.utf8Size)) := by
  have separator : p.rest? (x :: b) = none := by
    have none := rest?_append_cons h [] b
    rwa [nothing] at none
  rw [spansFrom_append_of_rest? nothing (fun _ c _ _ ↦ rest?_append_cons h c b) (Nat.zero_le _),
    spansFrom, separator, ← spansFrom_add, Nat.zero_add, Nat.add_zero]

/-- The matches of a pattern that ends with the separator if it takes it are those up to it and
those behind it. -/
theorem spansFrom_append_of_endsAt (h : p.endsAt x = true) (nothing : p.rest? [] = none)
    (a b : List Char) :
    p.spansFrom 0 0 (a ++ x :: b) = p.spansFrom 0 0 (a ++ [x]) ++
      (p.spansFrom 0 0 b).map (Span.shift (Text.size a + x.utf8Size)) := by
  have apart (front c : List Char) (e : a ++ [x] = front ++ c) (ne : c ≠ []) :
      p.rest? (c ++ b) = (p.rest? c).map (· ++ b) := by
    obtain ⟨c, last, rfl⟩ := (List.eq_nil_or_concat' c).resolve_left ne
    rw [← List.append_assoc] at e
    obtain rfl := (List.cons.inj (List.append_inj' e rfl).2).1
    rw [List.append_assoc]
    exact rest?_append_of_endsAt h c b
  have size : Text.size (a ++ [x]) = Text.size a + x.utf8Size := by
    rw [Text.size_append, Text.size_cons, Text.size_nil, Nat.add_zero]
  rw [← size, List.append_cons, spansFrom_append_of_rest? nothing apart (Nat.zero_le _),
    ← spansFrom_add, Nat.zero_add, Nat.add_zero]

end Pattern

end ContractScan
