/-!
# The pace of requests

Between two requests there is a least time. The pace holds no clock: whoever asks says what time
it is, and hears how long to wait.
-/

namespace ContractScan

/-- The least time between requests, and when the last one went out. -/
structure Pace where
  interval : Nat
  last : Option Nat := none
deriving DecidableEq, Repr

namespace Pace

/-- How long the next request has to wait at the given time. -/
def remaining (p : Pace) (now : Nat) : Nat :=
  match p.last with
  | some t => p.interval - (now - t)
  | none => 0

/-- When a request goes out that is ready at the time `now`, if it goes out `late` after it has
waited. -/
def departure (p : Pace) (now late : Nat) : Nat := now + p.remaining now + late

/-- The pace after a request that went out at the given time. -/
def after (p : Pace) (departure : Nat) : Pace := { p with last := some departure }

/-- The pace and the time after `n` requests in a row, each of them ready and going out at once. -/
def row (p : Pace) (now : Nat) : Nat → Pace × Nat
  | 0 => (p, now)
  | n + 1 =>
    let t := p.departure now 0
    row (p.after t) t n

/-- The first request does not wait. -/
@[simp] theorem remaining_of_last_none {p : Pace} (h : p.last = none) (now : Nat) :
    p.remaining now = 0 := by
  simp [remaining, h]

/-- A request goes out no sooner than the interval after the last one. -/
theorem le_departure {p : Pace} {t : Nat} (h : p.last = some t) (now late : Nat) (ht : t ≤ now) :
    t + p.interval ≤ p.departure now late := by
  simp only [departure, remaining, h]
  omega

end Pace

end ContractScan
