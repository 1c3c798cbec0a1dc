import ContractScan.Pattern.First
import ContractScan.Pattern.Places

/-!
# Matches at all places at once

What a pattern takes at a place depends only on the text from there on. So the outcomes at all
places are found in one pass for each run of the pattern: a row has an entry for each place, and
the row of a pattern is made from the row of what has to follow it, which is only worked out if a
match gets that far. Parts without a run are tried at each place by themselves.
`Pattern.row_holds` says that the entries are the outcomes of `Pattern.first`.
-/

namespace ContractScan

/-- An outcome for each place of a text. -/
abbrev Row (α : Type) := Array (Option α)

namespace Row

/-- The outcome at a place. -/
@[inline] def entry (r : Row α) (n : Nat) : Option α := r.getD n none

theorem entry_tabulate (t : Places) (f : Nat → Option α) {n : Nat} (h : n ≤ t.size) :
    Row.entry (t.tabulate f) n = f n := by
  simp [Row.entry, Array.getD_eq_getD_getElem?, Places.getElem?_tabulate t f h]

/-- The row has an entry for each place of the text, the outcome of `f` for the text there. -/
def Holds (r : Row α) (t : Places) (f : List Char → Option α) : Prop :=
  r.size = t.size + 1 ∧ ∀ n ≤ t.size, r.entry n = f (t.after n)

end Row

namespace Pattern

/-- The outcome of a run of the class from a place on. -/
def runFrom (t : Places) (pref : Preference) (c : CharClass) (k : Nat → Option α) :
    Nat → Option α
  | 0 => k 0
  | n + 1 => pref.pick (if c.holds (t.char n) then runFrom t pref c k n else none) (k (n + 1))

/-- The outcome of the preferred way to match from a place on. -/
def firstFrom (t : Places) (ahead : τ → Nat → Bool) :
    Pattern τ → (Nat → Option α) → Nat → Option α
  | .empty, k, n => k n
  | .one c, k, n =>
    match n with
    | 0 => none
    | n + 1 => if c.holds (t.char n) then k n else none
  | .run pref c, k, n => runFrom t pref c k n
  | .seq p q, k, n => p.firstFrom t ahead (q.firstFrom t ahead k) n
  | .alt p q, k, n => (p.firstFrom t ahead k n).or (q.firstFrom t ahead k n)
  | .notAhead l, k, n => if ahead l n then none else k n

/-- The row of a run of the class, for the last `n` characters. -/
def runRow (t : Places) (pref : Preference) (c : CharClass) (k : Row α) (n : Nat) : Row α :=
  n.fold
    (fun n _ r ↦
      r.push (pref.pick (if c.holds (t.char n) then r.entry n else none) (k.entry (n + 1))))
    #[k.entry 0]

/-- The row of a pattern that is tried at each place by itself. -/
def eachRow (t : Places) (ahead : τ → Nat → Bool) (p : Pattern τ) (k : Thunk (Row α)) : Row α :=
  t.tabulate fun n ↦ p.firstFrom t ahead (fun m ↦ k.get.entry m) n

/-- The row of a pattern, where `k` is the row of what follows. -/
def row (t : Places) (ahead : τ → Nat → Bool) : Pattern τ → Thunk (Row α) → Row α
  | .run pref c, k => runRow t pref c k.get t.size
  | .seq p q, k =>
    if (seq p q).hasRun then p.row t ahead (Thunk.mk fun _ ↦ q.row t ahead k)
    else eachRow t ahead (.seq p q) k
  | .alt p q, k =>
    if (alt p q).hasRun then Array.zipWith Option.or (p.row t ahead k) (q.row t ahead k)
    else eachRow t ahead (.alt p q) k
  | p, k => eachRow t ahead p k

variable {t : Places} {ahead : τ → Nat → Bool} {ahead' : τ → List Char → Bool}

/-- A run takes the same from a place and from the text there. -/
theorem runFrom_eq (pref : Preference) (c : CharClass) {k : Nat → Option α}
    {k' : List Char → Option α} (n : Nat) (h : ∀ m ≤ n, k m = k' (t.after m)) :
    runFrom t pref c k n = firstRun pref c k' (t.after n) := by
  induction n with
  | zero => exact h 0 (Nat.le_refl 0)
  | succ n ih =>
    simp only [runFrom, Places.after, firstRun, ih fun m hm ↦ h m (Nat.le_succ_of_le hm)]
    rw [h (n + 1) (Nat.le_refl _)]
    rfl

/-- A pattern takes the same from a place and from the text there. -/
theorem firstFrom_eq (p : Pattern τ) {k : Nat → Option α} {k' : List Char → Option α} (n : Nat)
    (ha : ∀ l, ∀ m ≤ n, ahead l m = ahead' l (t.after m))
    (h : ∀ m ≤ n, k m = k' (t.after m)) :
    p.firstFrom t ahead k n = p.first ahead' k' (t.after n) := by
  induction p generalizing k k' n with
  | empty => exact h n (Nat.le_refl n)
  | one c =>
    cases n with
    | zero => rfl
    | succ n => simp only [firstFrom, first, Places.after, h n (Nat.le_succ n)]
  | run pref c => exact runFrom_eq pref c n h
  | seq p q ihp ihq =>
    exact ihp n ha fun m hm ↦
      ihq m (fun l i hi ↦ ha l i (Nat.le_trans hi hm)) fun i hi ↦ h i (Nat.le_trans hi hm)
  | alt p q ihp ihq => simp only [firstFrom, first, ihp n ha h, ihq n ha h]
  | notAhead l => simp only [firstFrom, first, ha l n (Nat.le_refl n), h n (Nat.le_refl n)]

theorem runRow_eq (pref : Preference) (c : CharClass) (k : Row α) (n : Nat) :
    (runRow t pref c k n).size = n + 1 ∧
      ∀ m ≤ n, (runRow t pref c k n).entry m = runFrom t pref c k.entry m := by
  induction n with
  | zero =>
    refine ⟨rfl, fun m hm ↦ ?_⟩
    rw [Nat.le_zero.1 hm]
    rfl
  | succ n ih =>
    have last : runRow t pref c k (n + 1) =
        (runRow t pref c k n).push (runFrom t pref c k.entry (n + 1)) := by
      rw [runRow, Nat.fold_succ, ← runRow, ih.2 n (Nat.le_refl n)]
      rfl
    have entry (m : Nat) : (runRow t pref c k (n + 1)).entry m =
        if m = n + 1 then runFrom t pref c k.entry (n + 1)
        else (runRow t pref c k n).entry m := by
      simp only [last, Row.entry, Array.getD_eq_getD_getElem?, Array.getElem?_push, ih.1]
      split <;> rfl
    refine ⟨by rw [last, Array.size_push, ih.1], fun m hm ↦ ?_⟩
    rw [entry]
    split
    · rename_i e
      rw [e]
    · exact ih.2 m (by omega)

theorem runRow_holds (pref : Preference) (c : CharClass) {k : Row α}
    {k' : List Char → Option α} (h : k.Holds t k') :
    (runRow t pref c k t.size).Holds t (firstRun pref c k') := by
  refine ⟨(runRow_eq pref c k t.size).1, fun n hn ↦ ?_⟩
  rw [(runRow_eq pref c k t.size).2 n hn]
  exact runFrom_eq pref c n fun m hm ↦ h.2 m (Nat.le_trans hm hn)

theorem eachRow_holds (ha : ∀ l, ∀ m ≤ t.size, ahead l m = ahead' l (t.after m)) (p : Pattern τ)
    {k : Thunk (Row α)} {k' : List Char → Option α} (h : k.get.Holds t k') :
    (p.eachRow t ahead k).Holds t (p.first ahead' k') := by
  refine ⟨by simp [eachRow, Places.tabulate], fun n hn ↦ ?_⟩
  rw [eachRow, Row.entry_tabulate t _ hn]
  exact p.firstFrom_eq n (fun l m hm ↦ ha l m (Nat.le_trans hm hn)) fun m hm ↦
    h.2 m (Nat.le_trans hm hn)

/-- The row of a pattern holds the outcomes of matching at the places. -/
theorem row_holds (ha : ∀ l, ∀ m ≤ t.size, ahead l m = ahead' l (t.after m)) (p : Pattern τ)
    {k : Thunk (Row α)} {k' : List Char → Option α} (h : k.get.Holds t k') :
    (p.row t ahead k).Holds t (p.first ahead' k') := by
  induction p generalizing k k' with
  | run pref c => exact runRow_holds pref c h
  | seq p q ihp ihq =>
    rw [row]
    split
    · exact ihp (ihq h)
    · exact eachRow_holds ha _ h
  | alt p q ihp ihq =>
    rw [row]
    split
    · have hp := ihp h
      have hq := ihq h
      refine ⟨by simp [hp.1, hq.1], fun n hn ↦ ?_⟩
      have lt : n < t.size + 1 := Nat.lt_succ_of_le hn
      rw [first, ← hp.2 n hn, ← hq.2 n hn]
      simp [Row.entry, Array.getD_eq_getD_getElem?, hp.1, hq.1, lt]
    · exact eachRow_holds ha _ h
  | _ => exact eachRow_holds ha _ h

theorem firstFrom_map_left (ahead : σ → Nat → Bool) (f : τ → σ) (p : Pattern τ)
    (k : Nat → Option α) :
    (p.map f).firstFrom t ahead k = p.firstFrom t (fun l ↦ ahead (f l)) k := by
  funext n
  induction p generalizing k n with
  | seq p q ihp ihq => simp only [map, firstFrom, ihp, funext (ihq k)]
  | alt p q ihp ihq => simp only [map, firstFrom, ihp, ihq]
  | _ => rfl

/-- What is looked ahead for may be named differently. -/
theorem row_map_left (ahead : σ → Nat → Bool) (f : τ → σ) (p : Pattern τ) (k : Thunk (Row α)) :
    (p.map f).row t ahead k = p.row t (fun l ↦ ahead (f l)) k := by
  have each (p : Pattern τ) (k : Thunk (Row α)) :
      (p.map f).eachRow t ahead k = p.eachRow t (fun l ↦ ahead (f l)) k := by
    simp only [eachRow, firstFrom_map_left]
  induction p generalizing k with
  | run pref c => rfl
  | seq p q ihp ihq =>
    have run : (seq (p.map f) (q.map f)).hasRun = (seq p q).hasRun := hasRun_map f (seq p q)
    simp only [map, row, run, ihp, ihq]
    rw [show (seq (p.map f) (q.map f)).eachRow t ahead k = _ from each (seq p q) k]
  | alt p q ihp ihq =>
    have run : (alt (p.map f) (q.map f)).hasRun = (alt p q).hasRun := hasRun_map f (alt p q)
    simp only [map, row, run, ihp, ihq]
    rw [show (alt (p.map f) (q.map f)).eachRow t ahead k = _ from each (alt p q) k]
  | empty => exact each _ k
  | one c => exact each _ k
  | notAhead l => exact each _ k

end Pattern

namespace Plain

/-- For each place whether the plain pattern matches there. -/
def presence (t : Places) (p : Plain) : Array Bool :=
  (p.row t Empty.elim (Thunk.mk fun _ ↦ t.tabulate fun _ ↦ some ())).map Option.isSome

/-- The presence at a place is that in the text there. -/
theorem getD_presence (t : Places) (p : Plain) {n : Nat} (h : n ≤ t.size) :
    (p.presence t).getD n false = p.begins (t.after n) := by
  have all : Row.Holds (t.tabulate fun _ ↦ some ()) t fun _ ↦ some () :=
    ⟨by simp [Places.tabulate], fun m hm ↦ Row.entry_tabulate t _ hm⟩
  have holds : (p.row t Empty.elim (Thunk.mk fun _ ↦ t.tabulate fun _ ↦ some ())).Holds t
      (p.first Empty.elim fun _ ↦ some ()) := p.row_holds (fun l ↦ l.elim) all
  have lt : n < t.size + 1 := Nat.lt_succ_of_le h
  rw [begins, ← holds.2 n h]
  simp [presence, Row.entry, Array.getD_eq_getD_getElem?, holds.1, lt]

end Plain

end ContractScan
