import ContractScan.Finding.Scan
import ContractScan.Proofs.Pattern.LeftToRight
import ContractScan.Proofs.Pattern.Ways
import ContractScan.Proofs.Text.Trim

/-!
# Open functions without a guard

What the rule on access control finds, said without its pattern: the heads of functions that can be
called from outside (`OpenHead`), unless the text goes on with a word for a function that only reads
(`ReadOnly`) or with a guard before the next opening brace (`Guarded`). A head has one end only
(`OpenHead.unique`), so no other choice of the end can get around the two conditions, and the
matches are those heads from left to right (`spans_accessControl_iff`).
-/

namespace ContractScan.Rule.Evm

open Pattern
open Text (Spells SpellsAny)

/-- The text begins with the head of a function that can be called from outside, up to the word that
says so, and `rest` follows. -/
def OpenHead (s rest : List Char) : Prop :=
  ∃ keyword gap name gap' args gap'' reach,
    s = keyword ++ (gap ++ (name ++ (gap' ++ '(' :: (args ++ ')' :: (gap'' ++ (reach ++ rest)))))) ∧
      Spells "function" keyword ∧
      (gap ≠ [] ∧ ∀ c ∈ gap, Text.isBlank c = true) ∧
      (name ≠ [] ∧ ∀ c ∈ name, Text.isWord c = true) ∧
      (∀ c ∈ gap', Text.isBlank c = true) ∧
      ')' ∉ args ∧
      (∀ c ∈ gap'', Text.isBlank c = true) ∧
      SpellsAny ["public", "external"] reach

/-- White space follows and then a word for a function that only reads. -/
def ReadOnly (rest : List Char) : Prop :=
  ∃ gap word more, rest = gap ++ (word ++ more) ∧
    (gap ≠ [] ∧ ∀ c ∈ gap, Text.isBlank c = true) ∧ SpellsAny ["view", "pure"] word

/-- The text begins with a guard: the owner's modifier, the definition of a modifier, or a
requirement with the sender anywhere after it. -/
inductive Guard : List Char → Prop
  | owner {word more : List Char} (spells : Spells "onlyOwner" word) : Guard (word ++ more)
  | modifier {word gap more : List Char} {c : Char} (spells : Spells "modifier" word)
      (ne : gap ≠ []) (blank : ∀ c ∈ gap, Text.isBlank c = true) (begins : Text.isWord c = true) :
      Guard (word ++ (gap ++ c :: more))
  | require {word gap args sender more : List Char} (spells : Spells "require" word)
      (blank : ∀ c ∈ gap, Text.isBlank c = true) (mentions : Spells "msg.sender" sender) :
      Guard (word ++ (gap ++ '(' :: (args ++ (sender ++ more))))

/-- A guard follows, and no opening brace stands before it. -/
def Guarded (rest : List Char) : Prop :=
  ∃ before guard, rest = before ++ guard ∧ '{' ∉ before ∧ Guard guard

/-- The text begins with the head of an open function that is neither read-only nor guarded. -/
def Exposed (s rest : List Char) : Prop := OpenHead s rest ∧ ¬ReadOnly rest ∧ ¬Guarded rest

theorem begins_readOnly_iff {rest : List Char} :
    Plain.begins (sequence [many .blank, anyText "view" ["pure"]]) rest = true ↔ ReadOnly rest := by
  simp only [Plain.begins_iff, mem_ways_sequence_cons, mem_ways_sequence_singleton, mem_ways_many,
    mem_ways_anyText, CharClass.holds, ReadOnly]
  constructor
  · rintro ⟨more, _, ⟨gap, ne, blank, rfl⟩, word, spells, rfl⟩
    exact ⟨gap, word, more, rfl, ⟨ne, blank⟩, spells⟩
  · rintro ⟨gap, word, more, rfl, ⟨ne, blank⟩, spells⟩
    exact ⟨more, _, ⟨gap, ne, blank, rfl⟩, word, spells, rfl⟩

/-- A head has one end only: each of its parts ends where the next one begins. -/
theorem OpenHead.unique {s rest rest' : List Char} (h : OpenHead s rest) (h' : OpenHead s rest') :
    rest = rest' := by
  obtain ⟨keyword, gap, name, gap₁, args, gap₂, reach, rfl, spells, ⟨-, blank⟩, ⟨named, word⟩,
    blank₁, inside, blank₂, reached⟩ := h
  obtain ⟨keyword', gap', name', gap₁', args', gap₂', reach', e, spells', ⟨-, blank'⟩,
    ⟨named', word'⟩, blank₁', inside', blank₂', reached'⟩ := h'
  have atName {name x : List Char} (named : name ≠ []) (word : ∀ c ∈ name, Text.isWord c = true) :
      ∀ c ∈ (name ++ x).head?, Text.isBlank c = false :=
    Text.forall_head_append named fun c mem ↦ Text.isBlank_of_isWord (word c mem)
  have afterName {gap x : List Char} (blank : ∀ c ∈ gap, Text.isBlank c = true) :
      ∀ c ∈ (gap ++ '(' :: x).head?, Text.isWord c = false :=
    Text.forall_head_append_cons (fun c mem ↦ Text.isWord_of_isBlank (blank c mem)) (by decide)
  have opens {x : List Char} : ∀ c ∈ ('(' :: x).head?, Text.isBlank c = false :=
    Text.forall_head_append_cons (List.forall_mem_nil _) (by decide)
  have isArg {args : List Char} (inside : ')' ∉ args) : ∀ c ∈ args, (c != ')') = true :=
    fun c mem ↦ bne_iff_ne.mpr fun e ↦ inside (e ▸ mem)
  have closes {x : List Char} : ∀ c ∈ (')' :: x).head?, (c != ')') = false :=
    Text.forall_head_append_cons (List.forall_mem_nil _) (by decide)
  have atReach {reach x : List Char} (reached : SpellsAny ["public", "external"] reach) :
      ∀ c ∈ (reach ++ x).head?, Text.isBlank c = false :=
    reached.isBlank_head (by decide)
  obtain ⟨-, e⟩ := spells.append_inj spells' e
  obtain ⟨-, e⟩ := Text.span_inj blank blank' (atName named word) (atName named' word') e
  obtain ⟨-, e⟩ := Text.span_inj word word' (afterName blank₁) (afterName blank₁') e
  obtain ⟨-, e⟩ := Text.span_inj blank₁ blank₁' opens opens e
  obtain ⟨-, e⟩ := Text.span_inj (isArg inside) (isArg inside') closes closes (List.cons.inj e).2
  obtain ⟨-, e⟩ := Text.span_inj blank₂ blank₂' (atReach reached) (atReach reached')
    (List.cons.inj e).2
  exact (SpellsAny.append_inj (by decide) reached reached' e).2

theorem exists_ways_guard {s : List Char} :
    (∃ r, r ∈ (oneOf (text "onlyOwner") [
        sequence [text "require", blanks, text "(", most .anything, text "msg.sender"],
        sequence [text "modifier", many .blank, many .word]]).ways Empty.elim s) ↔ Guard s := by
  simp only [oneOf, mem_ways_alt, mem_ways_sequence_cons, mem_ways_sequence_singleton,
    mem_ways_many, mem_ways_text, mem_ways_blanks, mem_ways_most, Text.spells_mark, exists_eq_left,
    List.singleton_append, CharClass.holds_blank, CharClass.holds_word]
  constructor
  · rintro ⟨r, ⟨word, spells, rfl⟩ |
      ⟨_, ⟨word, spells, rfl⟩, _, ⟨gap, blank, rfl⟩, _, rfl, _, ⟨args, -, rfl⟩, sender, mentions,
        rfl⟩ |
      ⟨_, ⟨word, spells, rfl⟩, _, ⟨gap, ne, blank, rfl⟩, name, named, begins, rfl⟩⟩
    · exact .owner spells
    · exact .require spells blank mentions
    · cases name with
      | nil => exact absurd rfl named
      | cons c name => exact .modifier spells ne blank (begins c (.head name))
  · rintro (⟨spells⟩ | @⟨_, _, _, c, spells, ne, blank, begins⟩ | ⟨spells, blank, mentions⟩)
    · exact ⟨_, .inl ⟨_, spells, rfl⟩⟩
    · have word : ∀ d ∈ [c], Text.isWord d = true := List.forall_mem_singleton.mpr begins
      exact ⟨_, .inr (.inr ⟨_, ⟨_, spells, rfl⟩, _, ⟨_, ne, blank, rfl⟩, _, List.cons_ne_nil c [],
        word, rfl⟩)⟩
    · exact ⟨_, .inr (.inl ⟨_, ⟨_, spells, rfl⟩, _, ⟨_, blank, rfl⟩, _, rfl, _,
        ⟨_, fun _ _ ↦ rfl, rfl⟩, _, mentions, rfl⟩)⟩

theorem begins_guarded_iff {rest : List Char} :
    Plain.begins (sequence [most (.except ['{']), oneOf (text "onlyOwner") [
      sequence [text "require", blanks, text "(", most .anything, text "msg.sender"],
      sequence [text "modifier", many .blank, many .word]]]) rest = true ↔ Guarded rest := by
  simp only [Plain.begins_iff, mem_ways_sequence_cons, mem_ways_sequence_singleton, mem_ways_most,
    CharClass.forall_except_singleton, Guarded, ← exists_ways_guard]
  constructor
  · rintro ⟨r, _, ⟨before, outside, rfl⟩, mem⟩
    exact ⟨before, _, rfl, outside, r, mem⟩
  · rintro ⟨before, guard, rfl, outside, r, mem⟩
    exact ⟨r, guard, ⟨before, outside, rfl⟩, mem⟩

/-- The ways to match are the exposed heads. -/
theorem mem_ways_accessControl {s rest : List Char} :
    rest ∈ accessControl.pattern.ways Plain.begins s ↔ Exposed s rest := by
  simp only [accessControl, mem_ways_sequence_cons, mem_ways_sequence_singleton, mem_ways_many,
    mem_ways_blanks, mem_ways_most, mem_ways_text, mem_ways_anyText, mem_ways_notAhead,
    Text.spells_mark, exists_eq_left, List.singleton_append, CharClass.holds_blank,
    CharClass.holds_word, CharClass.forall_except_singleton, Exposed, ← begins_readOnly_iff,
    ← begins_guarded_iff, Bool.not_eq_true]
  constructor
  · rintro ⟨_, ⟨keyword, spells, rfl⟩, _, ⟨gap, ne, blank, rfl⟩, _, ⟨name, named, word, rfl⟩,
      _, ⟨gap', blank', rfl⟩, _, rfl, _, ⟨args, inside, rfl⟩, _, rfl, _, ⟨gap'', blank'', rfl⟩,
      _, ⟨reach, reached, rfl⟩, _, ⟨writes, rfl⟩, unguarded, rfl⟩
    exact ⟨⟨keyword, gap, name, gap', args, gap'', reach, rfl, spells, ⟨ne, blank⟩, ⟨named, word⟩,
      blank', inside, blank'', reached⟩, writes, unguarded⟩
  · rintro ⟨⟨keyword, gap, name, gap', args, gap'', reach, rfl, spells, ⟨ne, blank⟩, ⟨named, word⟩,
      blank', inside, blank'', reached⟩, writes, unguarded⟩
    exact ⟨_, ⟨keyword, spells, rfl⟩, _, ⟨gap, ne, blank, rfl⟩, _, ⟨name, named, word, rfl⟩,
      _, ⟨gap', blank', rfl⟩, _, rfl, _, ⟨args, inside, rfl⟩, _, rfl, _, ⟨gap'', blank'', rfl⟩,
      _, ⟨reach, reached, rfl⟩, _, ⟨writes, rfl⟩, unguarded, rfl⟩

/-- What is left after the preferred match is what follows an exposed head. -/
theorem rest?_accessControl {s rest : List Char} :
    accessControl.pattern.rest? s = some rest ↔ Exposed s rest := by
  rw [rest?_eq_some_iff, mem_ways_accessControl]
  intro a ha b hb
  exact (mem_ways_accessControl.mp ha).1.unique (mem_ways_accessControl.mp hb).1

theorem not_exposed_self (s : List Char) : ¬Exposed s s := by
  rintro ⟨⟨keyword, gap, name, gap₁, args, gap₂, reach, e, -⟩, -⟩
  have length := congrArg List.length e
  simp only [List.length_append, List.length_cons] at length
  omega

/-- The matches of the rule on access control, unless its budget is spent, are the exposed heads
from left to right, each up to its only end. -/
theorem spans_accessControl_iff {source : String} {spans : List Span}
    (whole : (accessControl.matchesIn source).exhausted = false) :
    ((accessControl.matchesIn source).spans = spans ↔
      LeftToRight Exposed 0 source.toList spans) ∧
    ∀ s rest rest', OpenHead s rest → OpenHead s rest' → rest = rest' := by
  refine ⟨?_, fun s rest rest' ↦ OpenHead.unique⟩
  have takes (s : List Char) : accessControl.pattern.rest? s ≠ some s :=
    fun found ↦ not_exposed_self s (rest?_accessControl.mp found)
  exact spans_matchesIn_iff takes (fun s _ rest ↦ rest?_accessControl) whole

/-- Of three heads the first only reads, the second is exposed, and the third has an owner's
modifier before its brace. -/
theorem spans_accessControl_iff_three :
    let source := "function a() public view; Function b(uint c)\npublic {} " ++
      "function d() public onlyOwner {}"
    (accessControl.matchesIn source).exhausted = false ∧
      LeftToRight Exposed 0 source.toList [⟨26, 51⟩] := by
  intro source
  have found : accessControl.matchesIn source = ⟨[⟨26, 51⟩], false⟩ := by decide +kernel
  have whole : (accessControl.matchesIn source).exhausted = false := by rw [found]
  exact ⟨whole, (spans_accessControl_iff whole).1.mp (by rw [found])⟩

end ContractScan.Rule.Evm
