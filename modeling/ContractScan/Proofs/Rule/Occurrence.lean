import ContractScan.Proofs.Rule.Matches

/-!
# Occurrences that cannot hide

A search passes over what begins inside a match. Where no match can begin inside another one
(`Pattern.NoOverlap`) nothing is passed over, so the matches start at all the places where the
pattern matches when it is tried there alone (`TakesSomething.exists_start_iff`). This is so if each
match begins with a word, no two of the words overlap, and none begins in what is taken behind it
(`Pattern.noOverlap_of_words`), as in the rules that look for a word and the sign behind it
(`occursAt_iff`).
-/

namespace ContractScan

open Text (Spells SpellsAny foldCase)

namespace Pattern

variable {p : Pattern Plain} {s r : List Char}

/-- No match of the pattern begins inside another one. -/
def NoOverlap (p : Pattern Plain) : Prop :=
  ∀ front back rest r, front ≠ [] → back ≠ [] →
    rest ∈ p.ways Plain.begins (front ++ (back ++ rest)) → r ∉ p.ways Plain.begins (back ++ rest)

/-- The words cannot overlap: none is empty, and none agrees with what another one goes on with
after its first character, as far as both go. -/
def WordsApart (ws : List String) : Prop :=
  ∀ v ∈ ws, v.toList ≠ [] ∧ ∀ w ∈ ws, ∀ part ∈ (v.toList.map foldCase).tail.tails,
    part = [] ∨ ¬part <+: w.toList.map foldCase ∧ ¬w.toList.map foldCase <+: part

instance : DecidablePred WordsApart := fun ws ↦
  inferInstanceAs (Decidable (∀ v ∈ ws, v.toList ≠ [] ∧ ∀ w ∈ ws,
    ∀ part ∈ (v.toList.map foldCase).tail.tails,
      part = [] ∨ ¬part <+: w.toList.map foldCase ∧ ¬w.toList.map foldCase <+: part))

/-- No word begins with the character, in either case. -/
def NoWordBegins (ws : List String) (c : Char) : Prop :=
  ∀ w ∈ ws, (w.toList.map foldCase).head? ≠ some (foldCase c)

/-- No match begins inside another one if each begins with one of some words that cannot overlap and
takes nothing behind it with which a word may begin. -/
theorem noOverlap_of_words {ws : List String} (apart : WordsApart ws)
    (begins : ∀ s rest, rest ∈ p.ways Plain.begins s → ∃ word tail, s = word ++ (tail ++ rest) ∧
      SpellsAny ws word ∧ ∀ c ∈ tail, NoWordBegins ws c) : p.NoOverlap := by
  intro front back rest r inside more match₁ match₂
  obtain ⟨word, tail, e, ⟨v, memv, spells⟩, behind⟩ := begins _ _ match₁
  obtain ⟨word', tail', e', ⟨w, memw, spells'⟩, -⟩ := begins _ _ match₂
  rw [← List.append_assoc, ← List.append_assoc, List.append_cancel_right_eq] at e
  -- the second match begins in what is taken behind the first word, or in that word
  have inTail {b : List Char} (part : tail = b ++ back) : False := by
    obtain ⟨c, back, rfl⟩ := List.exists_cons_of_ne_nil more
    obtain ⟨d, word', rfl⟩ := List.exists_cons_of_ne_nil (spells'.ne_nil (apart w memw).1)
    obtain rfl : c = d := (List.cons.inj e').1
    refine behind c (part ▸ List.mem_append_right b (.head back)) w memw ?_
    rw [← spells', List.map_cons, List.head?_cons]
  rcases List.append_eq_append_iff.mp e with ⟨b, rfl, rfl⟩ | ⟨b, -, part⟩
  · by_cases none : b = []
    · subst none
      exact inTail (b := []) rfl
    · obtain ⟨c, front, rfl⟩ := List.exists_cons_of_ne_nil inside
      have folded : v.toList.map foldCase = foldCase c :: (front.map foldCase ++ b.map foldCase) := by
        rw [← spells, List.cons_append, List.map_cons, List.map_append]
      have part : b.map foldCase ∈ (v.toList.map foldCase).tail.tails := by
        rw [folded, List.tail_cons, List.mem_tails]
        exact List.suffix_append _ _
      have first : b.map foldCase <+: (b ++ tail ++ rest).map foldCase := by
        rw [List.append_assoc, List.map_append]
        exact List.prefix_append _ _
      have second : w.toList.map foldCase <+: (b ++ tail ++ rest).map foldCase := by
        rw [e', List.map_append, spells']
        exact List.prefix_append _ _
      obtain empty | ⟨shorter, longer⟩ := (apart v memv).2 w memw _ part
      · exact none (List.map_eq_nil_iff.mp empty)
      · exact (List.prefix_or_prefix_of_prefix first second).elim shorter longer
  · exact inTail part

/-- The ways to match a word, white space and a sign. -/
theorem mem_ways_sign {w v : String} {ws vs : List String} :
    r ∈ (sequence [anyText w ws, blanks, anyText v vs]).ways Plain.begins s ↔
      ∃ word gap sign, s = word ++ (gap ++ (sign ++ r)) ∧ SpellsAny (w :: ws) word ∧
        (∀ c ∈ gap, Text.isBlank c = true) ∧ SpellsAny (v :: vs) sign := by
  simp only [mem_ways_sequence_cons, mem_ways_sequence_singleton, mem_ways_anyText,
    mem_ways_blanks]
  constructor
  · rintro ⟨_, ⟨word, spells, rfl⟩, _, ⟨gap, blank, rfl⟩, sign, signs, rfl⟩
    exact ⟨word, gap, sign, rfl, spells, blank, signs⟩
  · rintro ⟨word, gap, sign, rfl, spells, blank, signs⟩
    exact ⟨_, ⟨word, spells, rfl⟩, _, ⟨gap, blank, rfl⟩, sign, signs, rfl⟩

/-- Words that cannot overlap may have white space and a sign behind them, if none begins with white
space or with a character of a sign. -/
theorem noOverlap_sign (w : String) (ws : List String) (v : String) (vs : List String)
    (apart : WordsApart (w :: ws))
    (shown : ∀ u ∈ w :: ws, (u.toList.map foldCase).head?.map Text.isBlank = some false)
    (other : ∀ u ∈ v :: vs, ∀ u' ∈ w :: ws,
      (u'.toList.map foldCase).head? ∉ (u.toList.map foldCase).map some) :
    (sequence [anyText w ws, blanks, anyText v vs] : Pattern Plain).NoOverlap := by
  refine noOverlap_of_words apart fun s rest mem ↦ ?_
  obtain ⟨word, gap, sign, rfl, spells, blank, ⟨u, memu, signs⟩⟩ := mem_ways_sign.mp mem
  refine ⟨word, gap ++ sign, by rw [List.append_assoc], spells, fun c mem u' memu' begins ↦ ?_⟩
  rcases List.mem_append.mp mem with inGap | inSign
  · have first := shown u' memu'
    rw [begins, Option.map_some, Text.foldCase_of_isBlank (blank c inGap), blank c inGap] at first
    cases first
  · exact other u memu u' memu' (begins ▸ List.mem_map_of_mem (signs.foldCase_mem inSign))

/-- Words that cannot overlap may stand alone. -/
theorem noOverlap_anyText (w : String) (ws : List String) (apart : WordsApart (w :: ws)) :
    (anyText w ws : Pattern Plain).NoOverlap := by
  refine noOverlap_of_words apart fun s rest mem ↦ ?_
  obtain ⟨word, spells, rfl⟩ := mem_ways_anyText.mp mem
  exact ⟨word, [], rfl, spells, List.forall_mem_nil _⟩

end Pattern

namespace Rule

variable {r : Rule}

/-- The pattern of the rule matches at a byte offset of the source when it is tried there alone. -/
def OccursAt (r : Rule) (source : String) (n : Nat) : Prop :=
  ∃ before s, source.toList = before ++ s ∧ Text.size before = n ∧ (r.pattern.rest? s).isSome

/-- If no match begins inside another one, the matches start where the pattern matches when it is
tried there alone. -/
theorem TakesSomething.exists_start_iff (h : r.TakesSomething) (apart : r.pattern.NoOverlap)
    {source : String} {n : Nat} :
    (∃ m ∈ (r.matchesIn source).spans, m.start = n) ↔ r.OccursAt source n := by
  constructor
  · rintro ⟨m, found, rfl⟩
    obtain ⟨before, taken, rest, text, here, rfl⟩ := exists_of_mem_spans found
    exact ⟨before, _, text, rfl, by rw [here]; rfl⟩
  · rintro ⟨before, s, text, rfl, begins⟩
    obtain ⟨r', begins⟩ := Option.isSome_iff_exists.mp begins
    have way := Pattern.mem_ways_of_rest? begins
    obtain ⟨m, found, sooner, covers⟩ := h.exists_covers text way
    refine ⟨m, found, ?_⟩
    obtain ⟨before', taken, rest, text', here, rfl⟩ := exists_of_mem_spans found
    -- the place lies in the match that covers it, so it is the first one of it
    rcases List.append_eq_append_iff.mp (text'.symm.trans text) with ⟨a, rfl, e⟩ | ⟨b, rfl, -⟩
    · by_cases start : a = []
      · rw [start, List.append_nil]
      · exfalso
        simp only [Text.size_append] at covers
        rcases List.append_eq_append_iff.mp e with ⟨b, rfl, -⟩ | ⟨b, rfl, rfl⟩
        · rw [Text.size_append] at covers
          omega
        · have ne : b ≠ [] := by
            rintro rfl
            rw [List.append_nil] at covers
            omega
          rw [List.append_assoc] at here
          exact apart a b rest r' start ne (Pattern.mem_ways_of_rest? here) way
    · have none : b = [] := by
        by_contra ne
        have more := Text.size_pos ne
        have le : Text.size (before ++ b) ≤ Text.size before := sooner
        rw [Text.size_append] at le
        omega
      rw [none, List.append_nil]

/-- Rules that look for words, perhaps with white space and a sign behind them. -/
def wordRules : List Rule := [
  Evm.txOrigin, Evm.delegatecallDanger, Solana.integerOverflow, Solana.unsafeDeserialization]

theorem takesSomething_of_mem_wordRules (mem : r ∈ wordRules) : r.TakesSomething := by
  have all : ∀ r ∈ wordRules, r.pattern.looksAhead = false ∧ r.pattern.rest? [] = none := by
    decide +kernel
  exact ⟨(all r mem).1, (all r mem).2⟩

theorem noOverlap_of_mem_wordRules (mem : r ∈ wordRules) : r.pattern.NoOverlap := by
  simp only [wordRules, List.mem_cons, List.not_mem_nil, or_false] at mem
  rcases mem with rfl | rfl | rfl | rfl
  · apply Pattern.noOverlap_sign "tx.origin" [] "==" ["!="] <;> decide +kernel
  · apply Pattern.noOverlap_sign "delegatecall" [] "(" [] <;> decide +kernel
  · apply Pattern.noOverlap_sign "checked_add" ["checked_sub", "checked_mul", "checked_div"] "(" []
      <;> decide +kernel
  · apply Pattern.noOverlap_anyText "try_from_slice_unchecked" ["from_bytes_unchecked"]
    decide +kernel

/-- Of a word rule no occurrence is hidden by an earlier match: its matches start at all the places
where its pattern matches when it is tried there alone. So the rule reports just the lines on which
there is such a place. -/
theorem occursAt_iff (mem : r ∈ wordRules) (source : String) :
    (∀ n, (∃ m ∈ (r.matchesIn source).spans, m.start = n) ↔ r.OccursAt source n) ∧
    ∀ line, (∃ f ∈ scan [r] source, f.line = some line) ↔
      ∃ n, r.OccursAt source n ∧ Source.lineOf source.toList n = line := by
  have starts (n : Nat) : (∃ m ∈ (r.matchesIn source).spans, m.start = n) ↔ r.OccursAt source n :=
    (takesSomething_of_mem_wordRules mem).exists_start_iff (noOverlap_of_mem_wordRules mem)
  refine ⟨starts, fun line ↦ ?_⟩
  rw [exists_mem_scan_singleton, linesIn, List.mem_map]
  constructor
  · rintro ⟨m, found, here⟩
    exact ⟨m.start, (starts m.start).mp ⟨m, found, rfl⟩, here⟩
  · rintro ⟨n, occurs, here⟩
    obtain ⟨m, found, rfl⟩ := (starts n).mpr occurs
    exact ⟨m, found, here⟩

/-- The second word is spelled with a Kelvin sign and follows the beginning of another one; a line
end stands before its bracket. -/
theorem occursAt_iff_checked :
    let r := Solana.integerOverflow
    let source := "checked_add (a)\n.checked_chec\u212aed_sub\n(b)"
    r ∈ wordRules ∧ r.OccursAt source 25 ∧
    (∃ m ∈ (r.matchesIn source).spans, m.start = 25) ∧
    ∃ f ∈ scan [r] source, f.line = some 2 := by
  intro r source
  have mem : r ∈ wordRules := .tail _ (.tail _ (.head _))
  have occurs : r.OccursAt source 25 :=
    ⟨source.toList.take 25, source.toList.drop 25, (List.take_append_drop 25 _).symm,
      by decide +kernel, by decide +kernel⟩
  obtain ⟨starts, lines⟩ := occursAt_iff mem source
  exact ⟨mem, occurs, (starts 25).mpr occurs, (lines 2).mpr ⟨25, occurs, by decide +kernel⟩⟩

end Rule

end ContractScan
