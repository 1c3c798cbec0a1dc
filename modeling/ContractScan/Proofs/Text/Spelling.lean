import ContractScan.Proofs.Text.LetterCase
import Mathlib.Data.List.Infix

/-!
# Words as rules spell them

Rules compare letters by simple case folding, so a word stands in a text in many spellings
(`Spells`). All of them have the length of the word, so that a text begins with one at most
(`Spells.append_inj`), and a word without letters is spelled in one way only (`spells_iff`). A text
contains a word where some spelling stands in it (`Contains`); what stands in front may be left out
if no spelling can begin in it (`contains_append_iff`).
-/

namespace ContractScan.Text

variable {w : String} {t t' x y : List Char}

/-- The text is the word, each letter in either case. -/
def Spells (w : String) (t : List Char) : Prop := t.map foldCase = w.toList.map foldCase

instance : DecidableRel Spells := fun w t ↦
  inferInstanceAs (Decidable (t.map foldCase = w.toList.map foldCase))

/-- The text is one of the words, each letter in either case. -/
def SpellsAny (ws : List String) (t : List Char) : Prop := ∃ w ∈ ws, Spells w t

namespace Spells

theorem length_eq (h : Spells w t) : t.length = w.toList.length := by
  have lengths := congrArg List.length h
  rwa [List.length_map, List.length_map] at lengths

theorem ne_nil (h : Spells w t) (ne : w.toList ≠ []) : t ≠ [] := by
  intro nil
  have length := h.length_eq
  rw [nil, List.length_nil] at length
  exact ne (List.eq_nil_of_length_eq_zero length.symm)

/-- A text begins with one spelling of a word at most. -/
theorem append_inj (h : Spells w t) (h' : Spells w t') (e : t ++ x = t' ++ y) :
    t = t' ∧ x = y :=
  List.append_inj e (h.length_eq.trans h'.length_eq.symm)

end Spells

/-- A text begins with one spelling at most of words none of which begins another. -/
theorem SpellsAny.append_inj {ws : List String}
    (apart : ∀ v ∈ ws, ∀ w ∈ ws, v.toList.map foldCase <+: w.toList.map foldCase → v = w)
    (h : SpellsAny ws t) (h' : SpellsAny ws t') (e : t ++ x = t' ++ y) : t = t' ∧ x = y := by
  obtain ⟨v, memv, spells⟩ := h
  obtain ⟨w, memw, spells'⟩ := h'
  have first : v.toList.map foldCase <+: (t ++ x).map foldCase := by
    rw [List.map_append, spells]
    exact List.prefix_append _ _
  have second : w.toList.map foldCase <+: (t ++ x).map foldCase := by
    rw [e, List.map_append, spells']
    exact List.prefix_append _ _
  have same : v = w := by
    rcases List.prefix_or_prefix_of_prefix first second with part | part
    · exact apart v memv w memw part
    · exact (apart w memw v memv part).symm
  exact spells.append_inj (same ▸ spells') e

theorem SpellsAny.ne_nil {ws : List String} (h : SpellsAny ws t) (ne : ∀ w ∈ ws, w.toList ≠ []) :
    t ≠ [] := by
  obtain ⟨w, mem, spells⟩ := h
  exact spells.ne_nil (ne w mem)

/-- A character of a spelling is one of the word, in either case. -/
theorem Spells.foldCase_mem {c : Char} (h : Spells w t) (mem : c ∈ t) :
    foldCase c ∈ w.toList.map foldCase :=
  h ▸ List.mem_map_of_mem mem

/-- What no letter of a word can be in either case is not in its spellings. -/
theorem Spells.not_mem {c : Char} (h : Spells w t) (absent : foldCase c ∉ w.toList.map foldCase) :
    c ∉ t :=
  fun mem ↦ absent (h.foldCase_mem mem)

theorem SpellsAny.not_mem {ws : List String} {c : Char} (h : SpellsAny ws t)
    (absent : ∀ w ∈ ws, foldCase c ∉ w.toList.map foldCase) : c ∉ t := by
  obtain ⟨w, mem, spells⟩ := h
  exact spells.not_mem (absent w mem)

/-- Folding changes letters alone. -/
theorem eq_of_foldCase_eq {c d : Char} (e : foldCase c = d) (other : d.isAlpha = false) :
    c = d := by
  have letter (l : Char) (is : l.isAlpha = true) : l ≠ d := by
    rintro rfl
    rw [other] at is
    cases is
  unfold foldCase at e
  split at e
  · exact absurd e (letter 's' rfl)
  · split at e
    · exact absurd e (letter 'k' rfl)
    · rcases toLower_eq_or c with same | ⟨-, lower⟩
      · exact same.symm.trans e
      · exact absurd e (letter _ lower)

/-- What has no letters is spelled in one way only. -/
theorem spells_iff (plain : ∀ d ∈ w.toList, foldCase d = d ∧ d.isAlpha = false) :
    Spells w t ↔ t = w.toList := by
  rw [Spells]
  generalize w.toList = cs at plain ⊢
  induction cs generalizing t with
  | nil => rw [List.map_nil, List.map_eq_nil_iff]
  | cons d cs ih =>
    obtain ⟨⟨same, other⟩, plain⟩ := List.forall_mem_cons.mp plain
    cases t with
    | nil => exact iff_of_false (List.cons_ne_nil _ _).symm (List.cons_ne_nil d cs).symm
    | cons c t =>
      rw [List.map_cons, List.map_cons, List.cons.injEq, List.cons.injEq, ih plain, same]
      refine and_congr_left' ⟨fun e ↦ eq_of_foldCase_eq e other, ?_⟩
      rintro rfl
      exact same

/-- Words without letters are spelled in one way each. -/
theorem spellsAny_iff {ws : List String}
    (plain : ∀ w ∈ ws, (w.toList.all fun d ↦ foldCase d == d && !d.isAlpha) = true) :
    SpellsAny ws t ↔ ∃ w ∈ ws, t = w.toList :=
  exists_congr fun w ↦ and_congr_right fun mem ↦ spells_iff (by simpa using plain w mem)

/-- Brackets and the semicolon stand for themselves. -/
theorem spells_mark :
    (Spells "(" t ↔ t = ['(']) ∧ (Spells ")" t ↔ t = [')']) ∧ (Spells "[" t ↔ t = ['[']) ∧
      (Spells "]" t ↔ t = [']']) ∧ (Spells ";" t ↔ t = [';']) :=
  ⟨spells_iff (List.forall_mem_singleton.mpr (by decide)),
    spells_iff (List.forall_mem_singleton.mpr (by decide)),
    spells_iff (List.forall_mem_singleton.mpr (by decide)),
    spells_iff (List.forall_mem_singleton.mpr (by decide)),
    spells_iff (List.forall_mem_singleton.mpr (by decide))⟩

/-- What holds of the characters of white space one by one holds of any of them. -/
theorem forall_blank {P : Char → Prop}
    (h : ∀ r ∈ blankRanges, ∀ n ∈ List.range' r.1 (r.2 + 1 - r.1), P (Char.ofNat n)) {c : Char}
    (blank : isBlank c = true) : P c := by
  obtain ⟨r, mem, low, high⟩ := (inRanges_iff _ _).mp blank
  have here := h r mem c.toNat (List.mem_range'_1.mpr ⟨low, by omega⟩)
  rwa [Char.ofNat_toNat] at here

/-- White space is no part of a word. -/
theorem isWord_of_isBlank {c : Char} (blank : isBlank c = true) : isWord c = false :=
  forall_blank (P := fun c ↦ isWord c = false) (by decide +kernel) blank

theorem isBlank_of_isWord {c : Char} (word : isWord c = true) : isBlank c = false := by
  refine Bool.eq_false_iff.mpr fun blank ↦ ?_
  rw [isWord_of_isBlank blank] at word
  cases word

/-- White space has no case. -/
theorem foldCase_of_isBlank {c : Char} (blank : isBlank c = true) : foldCase c = c :=
  forall_blank (P := fun c ↦ foldCase c = c) (by decide +kernel) blank

/-- No spelling of words that begin without white space begins with white space. -/
theorem SpellsAny.isBlank_head {ws : List String}
    (shown : ∀ w ∈ ws, (w.toList.head?.map fun c ↦ isBlank (foldCase c)) = some false)
    (h : SpellsAny ws t) : ∀ c ∈ (t ++ x).head?, isBlank c = false := by
  obtain ⟨w, mem, spells⟩ := h
  have folded : t.head?.map foldCase = w.toList.head?.map foldCase := by
    rw [← List.head?_map, spells, List.head?_map]
  have first : (t.head?.map foldCase).map isBlank = some false := by
    rw [folded, Option.map_map]
    exact shown w mem
  obtain ⟨_, here, shown⟩ := Option.map_eq_some_iff.mp first
  obtain ⟨c, head, rfl⟩ := Option.map_eq_some_iff.mp here
  intro c' mem
  rw [List.head?_append, head, Option.some_or] at mem
  obtain rfl := Option.some.inj mem
  refine Bool.eq_false_iff.mpr fun blank ↦ ?_
  rw [foldCase_of_isBlank blank, blank] at shown
  cases shown

/-- A word of two parts is spelled part by part. -/
theorem spells_append {v w : String} :
    Spells (v ++ w) t ↔ ∃ x y, t = x ++ y ∧ Spells v x ∧ Spells w y := by
  rw [Spells, String.toList_append, List.map_append, List.map_eq_append_iff]
  rfl

/-- The word stands somewhere in the text, each letter in either case. -/
def Contains (w : String) (t : List Char) : Prop := w.toList.map foldCase <:+: t.map foldCase

instance : DecidableRel Contains := fun w t ↦
  inferInstanceAs (Decidable (w.toList.map foldCase <:+: t.map foldCase))

theorem contains_iff : Contains w t ↔ ∃ a x b, t = a ++ (x ++ b) ∧ Spells w x := by
  constructor
  · rintro ⟨front, back, e⟩
    rw [List.append_assoc] at e
    obtain ⟨a, r, rfl, -, e⟩ := List.map_eq_append_iff.mp e.symm
    obtain ⟨x, b, rfl, spells, -⟩ := List.map_eq_append_iff.mp e
    exact ⟨a, x, b, rfl, spells⟩
  · rintro ⟨a, x, b, rfl, spells⟩
    refine ⟨a.map foldCase, b.map foldCase, ?_⟩
    rw [← spells, List.append_assoc, ← List.map_append, ← List.map_append]

namespace Contains

/-- What a part of the text contains, the text contains. -/
theorem of_infix (h : Contains w x) (part : x <:+: t) : Contains w t := h.trans (part.map foldCase)

/-- What a word contains, each of its spellings contains. -/
theorem of_spells {v : String} (part : w.toList.map foldCase <:+: v.toList.map foldCase)
    (h : Spells v t) : Contains w t := by
  rw [Contains, h]
  exact part

/-- A word that the text contains has a last place there. -/
theorem exists_last (ne : w.toList ≠ []) (h : Contains w t) :
    ∃ a x b, t = a ++ (x ++ b) ∧ Spells w x ∧ ¬Contains w b := by
  induction t with
  | nil => exact absurd (List.map_eq_nil_iff.mp (List.infix_nil.mp h)) ne
  | cons c t ih =>
    by_cases later : Contains w t
    · obtain ⟨a, x, b, rfl, spells, last⟩ := ih later
      exact ⟨c :: a, x, b, rfl, spells, last⟩
    · obtain ⟨a, x, b, e, spells⟩ := contains_iff.mp h
      refine ⟨a, x, b, e, spells, fun more ↦ later (more.of_infix ?_)⟩
      cases a with
      | cons d a => exact ⟨a ++ x, [], by simp [(List.cons.inj e).2]⟩
      | nil =>
        cases x with
        | nil => exact absurd (List.eq_nil_of_length_eq_zero spells.length_eq.symm) ne
        | cons d x => exact ⟨x, [], by simp [(List.cons.inj e).2]⟩

end Contains

/-- What stands in front of a text may be left out if no spelling of the word can begin in it. -/
theorem contains_append_iff (apart : ∀ v ∈ (x.map foldCase).tails,
      v = [] ∨ ¬v <+: w.toList.map foldCase ∧ ¬w.toList.map foldCase <+: v) :
    Contains w (x ++ t) ↔ Contains w t := by
  induction x with
  | nil => rfl
  | cons c x ih =>
    obtain ⟨here, apart⟩ := List.forall_mem_cons.mp apart
    obtain ⟨shorter, longer⟩ := here.resolve_left (List.cons_ne_nil _ _)
    rw [← ih apart, List.cons_append, Contains, List.map_cons, List.infix_cons_iff]
    refine or_iff_right fun begins ↦ ?_
    have front : (c :: x).map foldCase <+: foldCase c :: (x ++ t).map foldCase := by
      rw [← List.map_cons, ← List.cons_append, List.map_append]
      exact List.prefix_append _ _
    exact (List.prefix_or_prefix_of_prefix begins front).elim longer shorter

/-- No spelling begins in a text without the first character of the word. -/
theorem contains_append_of_forall_ne {d : Char} (first : (w.toList.map foldCase).head? = some d)
    (absent : ∀ c ∈ x, foldCase c ≠ d) : Contains w (x ++ t) ↔ Contains w t := by
  refine contains_append_iff fun v part ↦ ?_
  cases v with
  | nil => exact .inl rfl
  | cons e v =>
    obtain ⟨c, mem, rfl⟩ := List.mem_map.mp (((List.mem_tails _ _).mp part).subset (.head v))
    obtain ⟨tail, word⟩ := List.head?_eq_some_iff.mp first
    rw [word]
    exact .inr ⟨fun h ↦ absent c mem (List.cons_prefix_cons.mp h).1,
      fun h ↦ absent c mem (List.cons_prefix_cons.mp h).1.symm⟩

end ContractScan.Text
