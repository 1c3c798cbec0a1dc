import ContractScan.Pattern.Attempt
import ContractScan.Pattern.Row

/-!
# Matches of a text

All matches of a pattern in a text, from left to right and without overlap. Places are counted
in bytes of the UTF-8 form. After a match the search goes on at its end, or one character further
when it is empty. A search for the next match may have a budget, all of it anew for each match;
one that spends it ends the list.
-/

namespace ContractScan

/-- A part of a text, from the byte offset `start` up to the byte offset `stop`. -/
structure Span where
  start : Nat
  stop : Nat
deriving DecidableEq, Repr

/-- The matches of a pattern, and whether a search ran out of its budget. -/
structure Matches where
  spans : List Span
  exhausted : Bool
deriving DecidableEq, Repr

namespace Matches

/-- No match, and none that could have been missed. -/
def none : Matches := ⟨[], false⟩

/-- A search that ran out of its budget. -/
def cutShort : Matches := ⟨[], true⟩

/-- The matches with one more in front. -/
def cons (s : Span) (ms : Matches) : Matches := { ms with spans := s :: ms.spans }

end Matches

namespace Places

/-- The part of the text between two places. -/
def span (t : Places) (n m : Nat) : Span := ⟨t.offset n, t.offset m⟩

/-- The matches from the place `n` on, after `skip` more characters, where `stop?` is the end of
the match that begins at a place. -/
def spansFrom (t : Places) (stop? : Nat → Option Nat) : (n skip : Nat) → List Span
  | 0, 0 =>
    match stop? 0 with
    | some m => [t.span 0 m]
    | none => []
  | 0, _ + 1 => []
  | n + 1, 0 =>
    match stop? (n + 1) with
    | some m => t.span (n + 1) m :: t.spansFrom stop? n (n - m)
    | none => t.spansFrom stop? n 0
  | n + 1, skip + 1 => t.spansFrom stop? n skip

/-- The matches from the place `n` on, after `skip` more characters, where `attempt` tries to
match at a place. That nothing begins at a place is the other side of a choice, so that going on
to the next place is a step back. The search that is going on still has `returns` of them, and
each further one has those of `limit`. -/
def searchFrom (t : Places) (limit : Budget) (attempt : Nat → Budget → Attempt) :
    (n skip returns : Nat) → Matches
  | 0, 0, returns =>
    match Budget.choose ⟨returns, limit.room⟩ (attempt 0) Budget.fail with
    | .found m => Matches.none.cons (t.span 0 m)
    | .failed _ => .none
    | .spent => .cutShort
  | 0, _ + 1, _ => .none
  | n + 1, 0, returns =>
    match Budget.choose ⟨returns, limit.room⟩ (attempt (n + 1)) Budget.fail with
    | .found m => (t.searchFrom limit attempt n (n - m) limit.returns).cons (t.span (n + 1) m)
    | .failed returns => t.searchFrom limit attempt n 0 returns
    | .spent => .cutShort
  | n + 1, skip + 1, returns => t.searchFrom limit attempt n skip returns

end Places

namespace Pattern

/-- All matches of the pattern in the text, each search within the budget if there is one. -/
def matchesIn (p : Pattern Plain) (limit : Option Budget) (t : Places) : Matches :=
  let known := p.map fun l ↦ Thunk.mk fun _ ↦ l.presence t
  let ahead := fun (present : Thunk (Array Bool)) n ↦ present.get.getD n false
  match limit with
  | none =>
    let stops := known.row t ahead (Thunk.mk fun _ ↦ t.tabulate some)
    ⟨t.spansFrom stops.entry t.size 0, false⟩
  | some limit =>
    t.searchFrom limit (known.attempt t ahead fun m _ ↦ .found m) t.size 0 limit.returns

/-- The matches that begin in `s`, which stands at the byte offset `pos`, after `skip` more
characters. -/
def spansFrom (p : Pattern Plain) (pos skip : Nat) : List Char → List Span
  | [] => if skip = 0 ∧ (p.rest? []).isSome then [⟨pos, pos⟩] else []
  | c :: s =>
    match skip with
    | skip + 1 => p.spansFrom (pos + c.utf8Size) skip s
    | 0 =>
      match p.rest? (c :: s) with
      | some rest =>
        ⟨pos, pos + (Text.size (c :: s) - Text.size rest)⟩ ::
          p.spansFrom (pos + c.utf8Size) (s.length - rest.length) s
      | none => p.spansFrom (pos + c.utf8Size) 0 s

end Pattern

end ContractScan
