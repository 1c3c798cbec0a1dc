import ContractScan.Proofs.Fetch.Session
import Mathlib.Data.List.Chain

/-!
# The spacing of requests

A row of calls is followed together with the pace before and after each of them. A call that sends a
request moves the pace, and any other leaves it (`Stage.isStep_of_mem_stages`). On a clock that
never goes back the instants that the pace records are at least its interval apart
(`isChain_recorded`), so a row of them spans as many intervals as lie between them
(`le_of_isChain`).
-/

namespace ContractScan

namespace Pace

/-- A request may go out at just those times at which its wait is over. -/
theorem le_iff_exists_departure (p : Pace) (now t : Nat) :
    now + p.remaining now ≤ t ↔ ∃ late, p.departure now late = t := by
  constructor
  · intro le
    obtain ⟨late, rfl⟩ := Nat.exists_eq_add_of_le le
    exact ⟨late, rfl⟩
  · rintro ⟨late, rfl⟩
    exact Nat.le_add_right _ late

end Pace

namespace Session

/-- A call of a session, what became of it, and the pace before it and after it. -/
structure Stage where
  turn : Turn
  visit : Visit
  before : Pace
  after : Pace

namespace Stage

/-- The call sent a request. -/
def sends (st : Stage) : Bool := st.visit.request.isSome

/-- When the request goes out, if the call sends one. -/
def departure (st : Stage) : Nat := st.before.departure st.turn.now st.turn.late

/-- What the clock shows in the course of the call. -/
def readings (st : Stage) : List Nat :=
  if st.sends then [st.turn.now, st.departure] else [st.turn.now]

/-- The instant that is recorded for the request, if the call sends one. -/
def recorded (st : Stage) : Option Nat := if st.sends then st.after.last else none

/-- What a call does to the pace under the settings. -/
structure IsStep (s : Settings) (st : Stage) : Prop where
  /-- A call that is refused for its address leaves the pace. -/
  invalid : st.turn.call.target.1.isAddress st.turn.call.target.2 = false →
    st.visit.result = .error (.invalidAddress st.turn.call.target.2 st.turn.call.target.1) ∧
      st.recorded = none ∧ st.after = st.before
  /-- So does one whose service is not configured. -/
  unsupported : st.turn.call.target.1.isAddress st.turn.call.target.2 = true →
    s.endpoint? st.turn.call.target.1.service = none →
    st.visit.result = .error (.unsupported st.turn.call.target.1) ∧
      st.recorded = none ∧ st.after = st.before
  /-- Any other call counts, whatever its result is. -/
  sent : st.turn.call.target.1.isAddress st.turn.call.target.2 = true →
    (s.endpoint? st.turn.call.target.1.service).isSome = true →
    st.recorded = some st.departure ∧ st.after = st.before.after st.departure

end Stage

/-- The call at which a session stands, when `v` becomes of it. -/
def stage (s : Session) (t : Turn) (v : Visit) : Stage := ⟨t, v, s.pace, (s.after t v).pace⟩

/-- The stages of a row of calls. -/
def stages (s : Session) (lastly : Reply) : List Reply → List Turn → List Stage
  | _, [] => []
  | replies, t :: ts =>
    let v := s.settings.visit t.call (replies.headD lastly)
    s.stage t v ::
      (s.after t v).stages lastly (if v.request.isSome then replies.tail else replies) ts

variable {s : Session} {lastly : Reply} {replies : List Reply} {t : Turn} {turns : List Turn}
  {v : Visit}

theorem map_visit_stages (s : Session) (lastly : Reply) (replies : List Reply)
    (turns : List Turn) : (s.stages lastly replies turns).map Stage.visit =
      s.run lastly replies turns := by
  induction turns generalizing s replies with
  | nil => rfl
  | cons t turns ih => rw [stages, List.map_cons, ih, run, stage]

theorem map_turn_stages (s : Session) (lastly : Reply) (replies : List Reply)
    (turns : List Turn) : (s.stages lastly replies turns).map Stage.turn = turns := by
  induction turns generalizing s replies with
  | nil => rfl
  | cons t turns ih => rw [stages, List.map_cons, ih, stage]

/-- The pace after a call is the pace before the next. -/
theorem isChain_stages (s : Session) (lastly : Reply) (replies : List Reply) (turns : List Turn) :
    (s.stages lastly replies turns).IsChain fun st st' ↦ st'.before = st.after := by
  induction turns generalizing s replies with
  | nil => exact List.isChain_nil
  | cons t turns ih =>
    cases turns with
    | nil => exact List.isChain_singleton _
    | cons t' turns => exact List.isChain_cons_cons.mpr ⟨rfl, ih _ _⟩

/-! ### One call -/

theorem after_of_sends (h : v.request.isSome = true) :
    s.after t v = { s with pace := s.pace.after (s.stage t v).departure } :=
  if_pos h

theorem after_of_not_sends (h : v.request.isSome = false) : s.after t v = s :=
  if_neg (by rw [h]; exact Bool.false_ne_true)

theorem recorded_of_sends (h : v.request.isSome = true) :
    (s.stage t v).recorded = some (s.stage t v).departure := by
  rw [Stage.recorded, if_pos (show (s.stage t v).sends = true from h), stage, after_of_sends h]
  rfl

theorem recorded_of_not_sends (h : v.request.isSome = false) : (s.stage t v).recorded = none :=
  if_neg (show ¬ (s.stage t v).sends = true by rw [Stage.sends, stage, h]; exact Bool.false_ne_true)

/-- A call is a step under the settings of its session. -/
theorem isStep_stage (s : Session) (t : Turn) (reply : Reply) :
    (s.stage t (s.settings.visit t.call reply)).IsStep s.settings := by
  have made := s.settings.isOf_visit t.call reply
  have refused (h : (s.settings.visit t.call reply).request.isSome = false) :
      (s.stage t (s.settings.visit t.call reply)).recorded = none ∧
        (s.after t (s.settings.visit t.call reply)).pace = s.pace :=
    ⟨recorded_of_not_sends h, by rw [after_of_not_sends h]⟩
  constructor
  · intro invalid
    refine ⟨made.invalid invalid, refused ?_⟩
    rw [Bool.eq_false_iff]
    intro sent
    exact Bool.false_ne_true (invalid.symm.trans (made.isSome_request.mp sent).1)
  · intro valid missing
    refine ⟨made.unsupported valid missing, refused ?_⟩
    rw [Bool.eq_false_iff]
    intro sent
    have configured := (made.isSome_request.mp sent).2
    rw [show s.settings.endpoint? t.call.target.1.service = none from missing] at configured
    cases configured
  · intro valid configured
    have sent := made.isSome_request.mpr ⟨valid, configured⟩
    refine ⟨recorded_of_sends sent, ?_⟩
    rw [stage, after_of_sends sent]
    rfl

/-! ### A row of calls -/

theorem isStep_of_mem_stages {st : Stage} (mem : st ∈ s.stages lastly replies turns) :
    st.IsStep s.settings := by
  induction turns generalizing s replies with
  | nil => cases mem
  | cons t turns ih =>
    rw [stages] at mem
    rcases List.mem_cons.mp mem with rfl | later
    · exact isStep_stage s t _
    · rw [← settings_after s t]
      exact ih later

/-- As many instants are recorded as requests are sent. -/
theorem length_recorded (s : Session) (lastly : Reply) (replies : List Reply) (turns : List Turn) :
    ((s.stages lastly replies turns).filterMap Stage.recorded).length =
      Visit.sent (s.run lastly replies turns) := by
  induction turns generalizing s replies with
  | nil => rfl
  | cons t turns ih =>
    rw [stages, run, Visit.sent_cons, Visit.sent_singleton]
    generalize s.settings.visit t.call (replies.headD lastly) = v
    cases sent : v.request.isSome with
    | true =>
      rw [List.filterMap_cons_some (recorded_of_sends sent), List.length_cons, ih, Nat.add_comm]
      rfl
    | false =>
      rw [List.filterMap_cons_none (recorded_of_not_sends sent), ih]
      exact (Nat.zero_add _).symm

/-- The first call that sends a request finds the pace as it was. -/
theorem before_of_find? {st : Stage}
    (found : (s.stages lastly replies turns).find? Stage.sends = some st) :
    st.before = s.pace := by
  induction turns generalizing s replies with
  | nil => cases found
  | cons t turns ih =>
    rw [stages] at found
    cases sent : (s.settings.visit t.call (replies.headD lastly)).request.isSome with
    | true =>
      rw [List.find?_cons_of_pos (by exact sent)] at found
      cases found
      rfl
    | false =>
      rw [List.find?_cons_of_neg (by rw [Stage.sends, stage, sent]; exact Bool.false_ne_true),
        after_of_not_sends sent] at found
      exact ih found

/-- The last instant recorded before a row of calls and those that are recorded in it follow one
another at the interval of the pace. -/
theorem isChain_recorded (s : Session) (lastly : Reply) (replies : List Reply) (turns : List Turn)
    (forward : (s.pace.last.toList ++
      (s.stages lastly replies turns).flatMap Stage.readings).Pairwise (· ≤ ·)) :
    (s.pace.last.toList ++ (s.stages lastly replies turns).filterMap Stage.recorded).IsChain
      (fun a b ↦ a + s.pace.interval ≤ b) := by
  induction turns generalizing s replies with
  | nil =>
    rw [stages, List.filterMap_nil, List.append_nil]
    cases s.pace.last with
    | none => exact List.isChain_nil
    | some a => exact List.isChain_singleton a
  | cons t turns ih =>
    rw [stages] at forward ⊢
    generalize s.settings.visit t.call (replies.headD lastly) = v at forward ⊢
    generalize (if v.request.isSome then replies.tail else replies) = rest at forward ⊢
    rw [List.flatMap_cons] at forward
    cases sent : v.request.isSome with
    | false =>
      rw [after_of_not_sends sent] at forward ⊢
      rw [List.filterMap_cons_none (recorded_of_not_sends sent)]
      refine ih s rest (forward.sublist ?_)
      exact (List.sublist_append_right _ _).append_left _
    | true =>
      have readings : (s.stage t v).readings = [t.now, (s.stage t v).departure] :=
        if_pos (show (s.stage t v).sends = true from sent)
      obtain ⟨-, -, front⟩ := List.pairwise_append.mp forward
      rw [readings] at forward front
      rw [List.filterMap_cons_some (recorded_of_sends sent)]
      -- what is recorded now stands before all that is recorded later
      have moved : (s.after t v).pace = s.pace.after (s.stage t v).departure := by
        rw [after_of_sends sent]
      have later := ih (s.after t v) rest
      rw [moved] at later
      have follow : ((s.stage t v).departure ::
          ((s.after t v).stages lastly rest turns).filterMap Stage.recorded).IsChain
            fun a b ↦ a + s.pace.interval ≤ b := by
        refine later (forward.sublist ?_)
        exact List.sublist_append_of_sublist_right (List.sublist_cons_self t.now _)
      cases last : s.pace.last with
      | none => exact follow
      | some a =>
        refine List.isChain_cons_cons.mpr ⟨?_, follow⟩
        exact Pace.le_departure last t.now t.late (front a (by simp [last]) t.now (.head _))

/-- In a row of instants that follow one another at an interval there are as many intervals between
two of them as there are steps. -/
theorem le_of_isChain {gap : Nat} {times : List Nat} (h : times.IsChain fun a b ↦ a + gap ≤ b)
    {i n a b : Nat} (first : times[i]? = some a) (last : times[i + n]? = some b) :
    a + n * gap ≤ b := by
  induction n generalizing b with
  | zero =>
    rw [Nat.add_zero, first] at last
    cases last
    omega
  | succ n ih =>
    obtain ⟨lt, rfl⟩ := List.getElem?_eq_some_iff.mp last
    have lt' : i + n < times.length := by omega
    have before := ih (List.getElem?_eq_getElem lt')
    have step := List.isChain_iff_getElem.mp h (i + n) lt
    rw [Nat.succ_mul]
    exact Nat.le_trans (by omega) step

/-- On a clock that never goes back, and with calls of any kind at any time, each request goes out
at some time at which its wait is over, and the instants of all requests are at least the interval
of the pace apart, so that a row of them spans as many intervals as lie between them. The first
request does not wait. A call that is refused leaves the pace, and a request counts whatever comes
back. -/
theorem spaced_stages (s : Session) (fresh : s.pace.last = none) (lastly : Reply)
    (replies : List Reply) (turns : List Turn)
    (forward : ((s.stages lastly replies turns).flatMap Stage.readings).Pairwise (· ≤ ·)) :
    let stages := s.stages lastly replies turns
    let times := stages.filterMap Stage.recorded
    stages.map Stage.visit = s.run lastly replies turns ∧
    stages.map Stage.turn = turns ∧
    (∀ (p : Pace) (now t : Nat), now + p.remaining now ≤ t ↔ ∃ late, p.departure now late = t) ∧
    times.length = Visit.sent (s.run lastly replies turns) ∧
    times.IsChain (fun a b ↦ a + s.pace.interval ≤ b) ∧
    (∀ i n a b, times[i]? = some a → times[i + n]? = some b → a + n * s.pace.interval ≤ b) ∧
    (∀ st, stages.find? Stage.sends = some st → st.before.remaining st.turn.now = 0) ∧
    (∀ st ∈ stages, st.IsStep s.settings) ∧
    stages.IsChain (fun st st' ↦ st'.before = st.after) := by
  intro stages times
  have chain : times.IsChain fun a b ↦ a + s.pace.interval ≤ b := by
    have chain := isChain_recorded s lastly replies turns (by rwa [fresh])
    rwa [fresh] at chain
  refine ⟨map_visit_stages s lastly replies turns, map_turn_stages s lastly replies turns,
    Pace.le_iff_exists_departure, length_recorded s lastly replies turns, chain, ?_, ?_, ?_,
    isChain_stages s lastly replies turns⟩
  · intro i n a b first last
    exact le_of_isChain chain first last
  · intro st found
    exact Pace.remaining_of_last_none (by rw [before_of_find? found, fresh]) _
  · intro st mem
    exact isStep_of_mem_stages mem

/-- An address that is none, a service that is not configured, a request that fails, one that has to
wait, and one that comes late enough. -/
theorem spaced_stages_failing :
    let settings := { Settings.standard with services := Settings.knownServices.erase "solana" }
    let address := "0x2791Bca1f2de4661ED88A30C99A7a9449Aa84174"
    let s := start settings
    let turns : List Turn := [
      { call := .on .ethereum "0x", now := 0 },
      { call := .on .solana "5vNt2vgV5boqwwRjueUZcbvsGfqzL7jZZtNubbSC8R9A", now := 5 },
      { call := .on .ethereum address, now := 10, late := 3 },
      { call := .detected "" none, now := 20 },
      { call := .on .bsc address, now := 30 },
      { call := .detected address none, now := 500, late := 1 }]
    let stages := s.stages (.error .tooManyRequests) [] turns
    s.pace.last = none ∧ (stages.flatMap Stage.readings).Pairwise (· ≤ ·) ∧
      stages.filterMap Stage.recorded = [13, 213, 501] ∧ 13 + 2 * 200 ≤ 501 := by
  intro settings address s turns stages
  have forward : (stages.flatMap Stage.readings).Pairwise (· ≤ ·) := by decide +kernel
  have times : stages.filterMap Stage.recorded = [13, 213, 501] := by decide +kernel
  obtain ⟨-, -, -, -, -, apart, -⟩ := spaced_stages s rfl (.error .tooManyRequests) [] turns forward
  exact ⟨rfl, forward, times, apart 0 2 13 501 (by rw [times]; rfl) (by rw [times]; rfl)⟩

end Session

end ContractScan
