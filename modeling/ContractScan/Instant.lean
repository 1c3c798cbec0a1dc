/-!
# Instants

A point in universal time and its text, by the Gregorian calendar. Days are counted from the
first of March of the year 0, so that the day that leap years add is the last one of a year.
-/

namespace ContractScan

/-- A point in time, counted from the beginning of the year 1970. -/
structure Instant where
  seconds : Nat
  /-- Billionths of a second on top. -/
  nanoseconds : Nat := 0
deriving DecidableEq, Repr

/-- A day of the calendar. -/
structure Day where
  year : Nat
  month : Nat
  day : Nat
deriving DecidableEq, Repr

namespace Instant

/-- The days from the first of March of the year 0 up to the beginning of 1970. -/
def daysBefore : Nat := 719468

/-- The days of four hundred years, after which the calendar begins anew. -/
def daysPerEra : Nat := 146097

/-- The calendar day of the instant. -/
def date (t : Instant) : Day :=
  let days := t.seconds / 86400 + daysBefore
  let inEra := days % daysPerEra
  let year := (inEra - inEra / 1460 + inEra / 36524 - inEra / 146096) / 365
  let inYear := inEra - (365 * year + year / 4 - year / 100)
  let fromMarch := (5 * inYear + 2) / 153
  let month := if fromMarch < 10 then fromMarch + 3 else fromMarch - 9
  { year := 400 * (days / daysPerEra) + year + if month ≤ 2 then 1 else 0
    month
    day := inYear - (153 * fromMarch + 2) / 5 + 1 }

/-- The number with at least the given count of digits. -/
def padded (width n : Nat) : String :=
  let digits := Nat.toDigits 10 n
  String.ofList (List.replicate (width - digits.length) '0' ++ digits)

/-- The fraction of the second: none, or three, six or nine digits, as many as it needs. -/
def fraction (t : Instant) : String :=
  let n := t.nanoseconds
  if n = 0 then ""
  else if n % 1000000 = 0 then "." ++ padded 3 (n / 1000000)
  else if n % 1000 = 0 then "." ++ padded 6 (n / 1000)
  else "." ++ padded 9 n

/-- The instant as date, time and the letter of universal time. -/
def render (t : Instant) : String :=
  let d := t.date
  let s := t.seconds % 86400
  padded 4 d.year ++ "-" ++ padded 2 d.month ++ "-" ++ padded 2 d.day ++ "T" ++
    padded 2 (s / 3600) ++ ":" ++ padded 2 (s / 60 % 60) ++ ":" ++ padded 2 (s % 60) ++
    t.fraction ++ "Z"

end Instant

/-- The last day of a leap year. -/
example : (Instant.render ⟨1735689599, 0⟩) = "2024-12-31T23:59:59Z" := by decide +kernel

/-- The day that a leap year adds. -/
example : (Instant.render ⟨1709164800, 120000000⟩) = "2024-02-29T00:00:00.120Z" := by
  decide +kernel

end ContractScan
