import ContractScan.Pattern.Search
import ContractScan.Proofs.Text.LetterCase

/-!
# Patterns and letter case

A pattern whose classes do not tell the two cases of a letter apart has the same matches in texts
that differ in the case of ASCII letters only (`matchesIn_eq_of_map_toLower`). The search itself
runs the same way, so it also spends the same part of its budget.
-/

namespace ContractScan

namespace Places

/-- Two texts that differ in the case of ASCII letters only, by their places. -/
structure SameLower (t t' : Places) : Prop where
  size : t.size = t'.size
  offsets : t.offsets = t'.offsets
  char : ∀ n, (t.char n).toLower = (t'.char n).toLower

theorem offsetsFrom_map_toLower (pos : Nat) (s : List Char) :
    offsetsFrom pos (s.map Char.toLower) = offsetsFrom pos s := by
  induction s generalizing pos with
  | nil => rfl
  | cons c s ih => rw [List.map_cons, offsetsFrom, ih, Text.utf8Size_toLower, offsetsFrom]

/-- The places of texts that are the same in lower case. -/
theorem sameLower_ofList {s s' : List Char} (h : s.map Char.toLower = s'.map Char.toLower) :
    (ofList s).SameLower (ofList s') where
  size := by
    have length := congrArg List.length h
    rwa [List.length_map, List.length_map, ← size_ofList s, ← size_ofList s'] at length
  offsets := by
    rw [ofList, ofList, ← offsetsFrom_map_toLower, h, offsetsFrom_map_toLower]
  char n := by
    have lower (s : List Char) :
        ((ofList s).char n).toLower = (s.map Char.toLower).reverse.getD n ' ' := by
      rw [char_ofList, ← List.map_reverse, List.getD_eq_getElem?_getD, List.getD_eq_getElem?_getD,
        List.getElem?_map]
      cases s.reverse[n]? <;> rfl
    rw [lower, lower, h]

namespace SameLower

variable {t t' : Places} (same : t.SameLower t')

include same

theorem holds_char {c : CharClass} (h : c.ignoresCase = true) (n : Nat) :
    c.holds (t.char n) = c.holds (t'.char n) := by
  rw [← CharClass.holds_toLower h, same.char n, CharClass.holds_toLower h]

theorem span (n m : Nat) : t.span n m = t'.span n m := by
  rw [Places.span, Places.span, offset, offset, offset, offset, same.offsets]

theorem tabulate (f : Nat → α) : t.tabulate f = t'.tabulate f := by
  rw [Places.tabulate, Places.tabulate, same.size]

/-- From the same ends the same matches are told. -/
theorem spansFrom (stop? : Nat → Option Nat) (n skip : Nat) :
    t.spansFrom stop? n skip = t'.spansFrom stop? n skip := by
  induction n generalizing skip with
  | zero => cases skip <;> simp only [Places.spansFrom, same.span]
  | succ n ih => cases skip <;> simp only [Places.spansFrom, same.span, ih]

/-- From the same attempts the same matches are found. -/
theorem searchFrom (limit : Budget) (attempt : Nat → Budget → Attempt) (n skip returns : Nat) :
    t.searchFrom limit attempt n skip returns = t'.searchFrom limit attempt n skip returns := by
  induction n generalizing skip returns with
  | zero => cases skip <;> simp only [Places.searchFrom, same.span]
  | succ n ih => cases skip <;> simp only [Places.searchFrom, same.span, ih]

end SameLower

end Places

namespace Pattern

/-- Whether no class of the pattern tells the two cases of a letter apart, and `ahead` holds of
what it looks ahead for. -/
def ignoresCase (ahead : τ → Bool) : Pattern τ → Bool
  | .empty => true
  | .one c | .run _ c => c.ignoresCase
  | .seq p q | .alt p q => p.ignoresCase ahead && q.ignoresCase ahead
  | .notAhead l => ahead l

variable {t t' : Places} (same : t.SameLower t') {ok : τ → Bool}

include same

theorem runFrom_sameLower (pref : Preference) {c : CharClass} (h : c.ignoresCase = true)
    (k : Nat → Option α) : runFrom t pref c k = runFrom t' pref c k := by
  funext n
  induction n with
  | zero => rfl
  | succ n ih => simp only [runFrom, same.holds_char h, ih]

theorem firstFrom_sameLower {ahead ahead' : τ → Nat → Bool}
    (ha : ∀ l, ok l = true → ahead l = ahead' l) (p : Pattern τ) (h : p.ignoresCase ok = true)
    (k : Nat → Option α) : p.firstFrom t ahead k = p.firstFrom t' ahead' k := by
  induction p generalizing k with
  | empty => rfl
  | one c =>
    funext n
    cases n with
    | zero => rfl
    | succ n => simp only [firstFrom, same.holds_char h]
  | run pref c => exact runFrom_sameLower same pref h k
  | seq p q ihp ihq =>
    simp only [ignoresCase, Bool.and_eq_true] at h
    funext n
    simp only [firstFrom, ihp h.1, ihq h.2]
  | alt p q ihp ihq =>
    simp only [ignoresCase, Bool.and_eq_true] at h
    funext n
    simp only [firstFrom, ihp h.1, ihq h.2]
  | notAhead l =>
    funext n
    simp only [firstFrom, ha l h]

theorem runRow_sameLower (pref : Preference) {c : CharClass} (h : c.ignoresCase = true)
    (k : Row α) (n : Nat) : runRow t pref c k n = runRow t' pref c k n := by
  simp only [runRow, same.holds_char h]

theorem row_sameLower {ahead ahead' : τ → Nat → Bool}
    (ha : ∀ l, ok l = true → ahead l = ahead' l) (p : Pattern τ) (h : p.ignoresCase ok = true)
    (k : Thunk (Row α)) : p.row t ahead k = p.row t' ahead' k := by
  have each (p : Pattern τ) (h : p.ignoresCase ok = true) (k : Thunk (Row α)) :
      p.eachRow t ahead k = p.eachRow t' ahead' k := by
    simp only [eachRow, firstFrom_sameLower same ha p h, same.tabulate]
  induction p generalizing k with
  | run pref c => rw [row, row, runRow_sameLower same pref h, same.size]
  | seq p q ihp ihq =>
    have parts := h
    simp only [ignoresCase, Bool.and_eq_true] at parts
    simp only [row, each _ h, ihp parts.1, ihq parts.2]
  | alt p q ihp ihq =>
    have parts := h
    simp only [ignoresCase, Bool.and_eq_true] at parts
    simp only [row, each _ h, ihp parts.1, ihq parts.2]
  | empty => exact each _ h k
  | one c => exact each _ h k
  | notAhead l => exact each _ h k

theorem presence_sameLower {l : Plain} (h : l.ignoresCase Empty.elim = true) :
    l.presence t = l.presence t' := by
  rw [Plain.presence, Plain.presence, row_sameLower same (fun e ↦ e.elim) l h, same.tabulate]

theorem attemptRun_sameLower (pref : Preference) {c : CharClass} (h : c.ignoresCase = true)
    (k : Nat → Budget → Attempt) : attemptRun t pref c k = attemptRun t' pref c k := by
  funext n
  induction n with
  | zero => rfl
  | succ n ih =>
    funext b
    simp only [attemptRun, same.holds_char h, ih]

theorem attempt_sameLower {ahead ahead' : τ → Nat → Bool}
    (ha : ∀ l, ok l = true → ahead l = ahead' l) (p : Pattern τ) (h : p.ignoresCase ok = true)
    (k : Nat → Budget → Attempt) : p.attempt t ahead k = p.attempt t' ahead' k := by
  induction p generalizing k with
  | empty => rfl
  | one c =>
    funext n b
    cases n with
    | zero => rfl
    | succ n => simp only [attempt, same.holds_char h]
  | run pref c => exact attemptRun_sameLower same pref h k
  | seq p q ihp ihq =>
    simp only [ignoresCase, Bool.and_eq_true] at h
    funext n b
    simp only [attempt, ihp h.1, ihq h.2]
  | alt p q ihp ihq =>
    simp only [ignoresCase, Bool.and_eq_true] at h
    funext n b
    simp only [attempt, ihp h.1, ihq h.2]
  | notAhead l =>
    funext n b
    simp only [attempt, ha l h]

omit same in
/-- Texts that are the same in lower case have the same matches, found at the same expense. -/
theorem matchesIn_eq_of_map_toLower {p : Pattern Plain}
    (h : p.ignoresCase (fun l ↦ l.ignoresCase Empty.elim) = true) (limit : Option Budget)
    {s s' : List Char} (e : s.map Char.toLower = s'.map Char.toLower) :
    p.matchesIn limit (Places.ofList s) = p.matchesIn limit (Places.ofList s') := by
  have same := Places.sameLower_ofList e
  have ahead (l : Plain) (ok : l.ignoresCase Empty.elim = true) :
      (fun n ↦ (Thunk.mk fun _ ↦ l.presence (Places.ofList s)).get.getD n false) =
        fun n ↦ (Thunk.mk fun _ ↦ l.presence (Places.ofList s')).get.getD n false := by
    rw [presence_sameLower same ok]
  cases limit with
  | none =>
    simp only [matchesIn, row_map_left]
    rw [row_sameLower same ahead p h, same.tabulate, same.size, same.spansFrom]
  | some limit =>
    simp only [matchesIn, attempt_map_left]
    rw [attempt_sameLower same ahead p h, same.size, same.searchFrom]

end Pattern

end ContractScan
