import ContractScan.Pattern.Budget
import ContractScan.Pattern.First
import ContractScan.Pattern.Places

/-!
# Matching within a budget

`Pattern.attempt` tries a pattern at a place of a text and hands the place where it ends to a
continuation, which may refuse it. Alternatives, each step of a run and looks ahead are choices
that the budget has to allow. Whatever an attempt finds is what the pattern takes, and one that
fails within its budget has nothing to find (`Pattern.attempt_agrees`).
-/

namespace ContractScan

/-- The choice between going on with a run and ending it here, the preferred side first. -/
@[macro_inline] def Budget.prefer (b : Budget) (pref : Preference)
    (further here : Budget → Attempt) : Attempt :=
  match pref with
  | .longest => b.choose further here
  | .shortest => b.choose here further

namespace Attempt

/-- An attempt in the text agrees with what is left after the match: it finds only that, and it
fails only if there is no match. -/
def Agrees (t : Places) : Attempt → Option (List Char) → Prop
  | .found m, rest? => m ≤ t.size ∧ rest? = some (t.after m)
  | .failed _, rest? => rest? = none
  | .spent, _ => True

theorem agrees_orTry {t : Places} {a : Attempt} {next : Nat → Attempt} {x y : Option (List Char)}
    (ha : a.Agrees t x) (hn : ∀ returns, (next returns).Agrees t y) :
    (a.orTry next).Agrees t (x.or y) := by
  match a, ha with
  | .found m, ha => exact ⟨ha.1, by rw [ha.2]; rfl⟩
  | .failed 0, _ => trivial
  | .failed (returns + 1), ha =>
    rw [show x = none from ha]
    exact hn returns
  | .spent, _ => trivial

theorem agrees_choose {t : Places} {one other : Budget → Attempt} {x y : Option (List Char)}
    (hx : ∀ b, (one b).Agrees t x) (hy : ∀ b, (other b).Agrees t y) (b : Budget) :
    (b.choose one other).Agrees t (x.or y) := by
  unfold Budget.choose
  split
  · trivial
  · exact agrees_orTry (hx _) fun _ ↦ hy _

theorem agrees_prefer {t : Places} (pref : Preference) {further here : Budget → Attempt}
    {x y : Option (List Char)} (hx : ∀ b, (further b).Agrees t x)
    (hy : ∀ b, (here b).Agrees t y) (b : Budget) :
    (b.prefer pref further here).Agrees t (pref.pick x y) := by
  cases pref with
  | longest => exact agrees_choose hx hy b
  | shortest => exact agrees_choose hy hx b

theorem agrees_fail {t : Places} (b : Budget) : b.fail.Agrees t none := rfl

end Attempt

namespace Pattern

/-- A run of the class from a place on. At each place it is a choice whether it goes on. -/
def attemptRun (t : Places) (pref : Preference) (c : CharClass) (k : Nat → Budget → Attempt) :
    Nat → Budget → Attempt
  | 0, b => b.prefer pref Budget.fail (k 0)
  | n + 1, b =>
    b.prefer pref (fun b ↦ if c.holds (t.char n) then attemptRun t pref c k n b else b.fail)
      (k (n + 1))

/-- Tries the pattern at a place; `k` decides about the place where it ends. -/
def attempt (t : Places) (ahead : τ → Nat → Bool) :
    Pattern τ → (Nat → Budget → Attempt) → Nat → Budget → Attempt
  | .empty, k, n, b => k n b
  | .one c, k, n, b =>
    match n with
    | 0 => b.fail
    | n + 1 => if c.holds (t.char n) then k n b else b.fail
  | .run pref c, k, n, b => attemptRun t pref c k n b
  | .seq p q, k, n, b => p.attempt t ahead (q.attempt t ahead k) n b
  | .alt p q, k, n, b => b.choose (p.attempt t ahead k n) (q.attempt t ahead k n)
  | .notAhead l, k, n, b =>
    if b.room = 0 then .spent else if ahead l n then b.fail else b.choose Budget.fail (k n)

variable {t : Places} {ahead : τ → Nat → Bool} {ahead' : τ → List Char → Bool}

theorem attemptRun_agrees (pref : Preference) (c : CharClass) {k : Nat → Budget → Attempt}
    {k' : List Char → Option (List Char)} (n : Nat)
    (h : ∀ m ≤ n, ∀ b, (k m b).Agrees t (k' (t.after m))) (b : Budget) :
    (attemptRun t pref c k n b).Agrees t (firstRun pref c k' (t.after n)) := by
  induction n generalizing b with
  | zero =>
    have last : firstRun pref c k' [] = pref.pick none (k' []) := by
      cases pref with
      | longest => rfl
      | shortest => exact (Option.or_none).symm
    rw [Places.after, last]
    exact Attempt.agrees_prefer pref Attempt.agrees_fail (h 0 (Nat.le_refl 0)) b
  | succ n ih =>
    have further (b : Budget) :
        (if c.holds (t.char n) then attemptRun t pref c k n b else b.fail).Agrees t
          (if c.holds (t.char n) then firstRun pref c k' (t.after n) else none) := by
      split
      · exact ih (fun m hm ↦ h m (Nat.le_succ_of_le hm)) b
      · rfl
    exact Attempt.agrees_prefer pref further (h (n + 1) (Nat.le_refl _)) b

/-- An attempt agrees with what the pattern takes. -/
theorem attempt_agrees (p : Pattern τ) {k : Nat → Budget → Attempt}
    {k' : List Char → Option (List Char)} (n : Nat)
    (ha : ∀ l, ∀ m ≤ n, ahead l m = ahead' l (t.after m))
    (h : ∀ m ≤ n, ∀ b, (k m b).Agrees t (k' (t.after m))) (b : Budget) :
    (p.attempt t ahead k n b).Agrees t (p.first ahead' k' (t.after n)) := by
  induction p generalizing k k' n b with
  | empty => exact h n (Nat.le_refl n) b
  | one c =>
    cases n with
    | zero => rfl
    | succ n =>
      simp only [attempt, first, Places.after]
      split
      · exact h n (Nat.le_succ n) b
      · rfl
  | run pref c => exact attemptRun_agrees pref c n h b
  | seq p q ihp ihq =>
    exact ihp n ha (fun m hm b ↦
      ihq m (fun l i hi ↦ ha l i (Nat.le_trans hi hm)) (fun i hi ↦ h i (Nat.le_trans hi hm)) b) b
  | alt p q ihp ihq => exact Attempt.agrees_choose (ihp n ha h) (ihq n ha h) b
  | notAhead l =>
    simp only [attempt, first, ← ha l n (Nat.le_refl n)]
    split
    · trivial
    · split
      · rfl
      · exact Attempt.agrees_choose Attempt.agrees_fail (h n (Nat.le_refl n)) b

/-- What is looked ahead for may be named differently. -/
theorem attempt_map_left (ahead : σ → Nat → Bool) (f : τ → σ) (p : Pattern τ)
    (k : Nat → Budget → Attempt) :
    (p.map f).attempt t ahead k = p.attempt t (fun l ↦ ahead (f l)) k := by
  funext n b
  induction p generalizing k n b with
  | seq p q ihp ihq =>
    have inner : (q.map f).attempt t ahead k = q.attempt t (fun l ↦ ahead (f l)) k := by
      funext n b
      exact ihq k n b
    simp only [map, attempt, ihp, inner]
  | alt p q ihp ihq =>
    have one : (p.map f).attempt t ahead k n = p.attempt t (fun l ↦ ahead (f l)) k n :=
      funext (ihp k n)
    have other : (q.map f).attempt t ahead k n = q.attempt t (fun l ↦ ahead (f l)) k n :=
      funext (ihq k n)
    simp only [map, attempt, one, other]
  | _ => rfl

end Pattern

end ContractScan
