import ContractScan.Pattern.Basic

/-!
# What a pattern takes

The meaning of a pattern where a text begins: the ways to match are tried in the order of
preference, and the first that lets the rest go on decides. `Pattern.first_map` says that the
choice does not depend on what the outcome is turned into.
-/

namespace ContractScan

namespace Preference

/-- The preferred of the ways to go on with a run and to end it here. -/
@[macro_inline] def pick (first : Preference) (further here : Option α) : Option α :=
  match first with
  | .longest => further.or here
  | .shortest => here.or further

theorem pick_map (first : Preference) (further here : Option α) (f : α → β) :
    first.pick (further.map f) (here.map f) = (first.pick further here).map f := by
  cases first <;> cases further <;> cases here <;> rfl

end Preference

namespace Pattern

/-- The outcome of a run of the class, where `k` decides about what is left. -/
def firstRun (pref : Preference) (c : CharClass) (k : List Char → Option α) :
    List Char → Option α
  | [] => k []
  | x :: s => pref.pick (if c.holds x then firstRun pref c k s else none) (k (x :: s))

/-- The outcome of the preferred way to match where `s` begins; `k` decides about what is left of
it, and where it refuses the next way is taken. -/
def first (ahead : τ → List Char → Bool) :
    Pattern τ → (List Char → Option α) → List Char → Option α
  | .empty, k, s => k s
  | .one c, k, s =>
    match s with
    | [] => none
    | x :: r => if c.holds x then k r else none
  | .run pref c, k, s => firstRun pref c k s
  | .seq p q, k, s => p.first ahead (q.first ahead k) s
  | .alt p q, k, s => (p.first ahead k s).or (q.first ahead k s)
  | .notAhead l, k, s => if ahead l s then none else k s

/-- A function of the outcome may as well be applied to what decides about the rest. -/
theorem first_map (ahead : τ → List Char → Bool) (p : Pattern τ) (k : List Char → Option α)
    (f : α → β) (s : List Char) :
    p.first ahead (fun r ↦ (k r).map f) s = (p.first ahead k s).map f := by
  induction p generalizing k s with
  | empty => rfl
  | one c =>
    cases s with
    | nil => rfl
    | cons x r => simp only [first]; split <;> rfl
  | run pref c =>
    simp only [first]
    induction s with
    | nil => rfl
    | cons x r ih =>
      simp only [firstRun, ih, ← Preference.pick_map]
      split <;> rfl
  | seq p q ihp ihq =>
    simp only [first]
    rw [funext (ihq k)]
    exact ihp (q.first ahead k) s
  | alt p q ihp ihq =>
    simp only [first, ihp, ihq]
    cases p.first ahead k s <;> rfl
  | notAhead l =>
    simp only [first]
    split <;> rfl

end Pattern

/-- Whether the plain pattern matches where `s` begins. -/
def Plain.begins (p : Plain) (s : List Char) : Bool :=
  (p.first Empty.elim (fun _ ↦ some ()) s).isSome

/-- What is left of `s` after the preferred match at its beginning. -/
def Pattern.rest? (p : Pattern Plain) (s : List Char) : Option (List Char) :=
  p.first Plain.begins some s

end ContractScan
