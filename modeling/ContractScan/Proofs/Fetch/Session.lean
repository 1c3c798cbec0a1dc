import ContractScan.Fetch.Call

/-!
# Rows of calls

A row of calls is visited one after the other. What becomes of a call is told by the settings, the
network, the address and the one reply that it takes (`getElem?_run`); the calls before it count
only for how many replies they have taken, and a call that sends no request takes none. So nothing
is left behind by a call that fails (`drop_run`).
-/

namespace ContractScan

namespace Visit

/-- How many of the visits sent a request. -/
def sent (vs : List Visit) : Nat := vs.countP fun v ↦ v.request.isSome

theorem sent_nil : sent [] = 0 := rfl

theorem sent_singleton (v : Visit) : sent [v] = if v.request.isSome then 1 else 0 :=
  List.countP_singleton

theorem sent_cons (v : Visit) (vs : List Visit) : sent (v :: vs) = sent [v] + sent vs := by
  rw [sent, sent, sent, ← List.singleton_append, List.countP_append]

/-- The visit is what the settings make of the address on the network and of the reply. -/
structure IsOf (s : Settings) (n : Network) (address : String) (reply : Reply) (v : Visit) :
    Prop where
  /-- A request goes out for an address of the network whose service is configured, and else not. -/
  isSome_request : v.request.isSome = true ↔
    n.isAddress address = true ∧ (s.endpoint? n.service).isSome = true
  invalid : n.isAddress address = false → v.result = .error (.invalidAddress address n)
  unsupported : n.isAddress address = true → s.endpoint? n.service = none →
    v.result = .error (.unsupported n)
  /-- An explorer is asked for the source at the address; the chain is named if it is set. -/
  get : n.isEvm = true → ∀ r ∈ v.request, ∃ url, s.endpoint? n.service = some url ∧
    r = .get url ((match s.chainId? n.service with
        | some c => [("chainid", toString c.toNat)]
        | none => []) ++
      [("module", "contract"), ("action", "getsourcecode"), ("address", address),
        ("apikey", s.key n.service)])
  /-- A node is asked for the account at the address. -/
  post : n.isEvm = false → ∀ r ∈ v.request, ∃ url, s.endpoint? n.service = some url ∧
    r = .post url (.object [("jsonrpc", .text "2.0"), ("id", .nat 1),
      ("method", .text "getAccountInfo"),
      ("params", .array [.text address, .object [("encoding", .text "base64")]])])
  /-- Where a request went out, the reply decides. -/
  result : v.request.isSome = true → v.result = reply.contract n address

end Visit

namespace Settings

/-- What comes of asking for a contract: a fault of the address, of the settings, or a request. -/
theorem request_cases (s : Settings) (n : Network) (address : String) :
    (n.isAddress address = false ∧ s.request n address = .error (.invalidAddress address n)) ∨
    (n.isAddress address = true ∧ s.endpoint? n.service = none ∧
      s.request n address = .error (.unsupported n)) ∨
    ∃ url, n.isAddress address = true ∧ s.endpoint? n.service = some url ∧
      s.request n address = .ok (if n.isEvm then
          .get url (Explorer.sourceQuery address (s.key n.service)
            ((s.chainId? n.service).map UInt64.toNat))
        else .post url (Account.request address)) := by
  rw [request]
  cases valid : n.isAddress address with
  | false => exact .inl ⟨rfl, rfl⟩
  | true =>
    cases endpoint : s.endpoint? n.service with
    | none => exact .inr (.inl ⟨rfl, rfl, rfl⟩)
    | some url => exact .inr (.inr ⟨url, rfl, rfl, rfl⟩)

/-- Of a call only the network and the address that are meant count. -/
theorem visit_congr (s : Settings) {c c' : Call} (h : c.target = c'.target) (reply : Reply) :
    s.visit c reply = s.visit c' reply := by
  rw [visit, visit, h]

/-- A visit is made as the settings say. -/
theorem isOf_visit (s : Settings) (c : Call) (reply : Reply) :
    (s.visit c reply).IsOf s c.target.1 c.target.2 reply := by
  rw [visit]
  rcases request_cases s c.target.1 c.target.2 with
    ⟨invalid, fault⟩ | ⟨valid, missing, fault⟩ | ⟨url, valid, endpoint, request⟩
  · simp only [fault]
    constructor <;> simp [invalid]
  · simp only [fault]
    constructor <;> simp [valid, missing]
  · simp only [request]
    constructor
    · simp [valid, endpoint]
    · simp [valid]
    · simp [endpoint]
    · intro evm r mem
      refine ⟨url, endpoint, ?_⟩
      cases mem
      rw [if_pos evm, Explorer.sourceQuery]
      cases s.chainId? c.target.1.service <;> rfl
    · intro other r mem
      refine ⟨url, endpoint, ?_⟩
      cases mem
      rw [other]
      rfl
    · exact fun _ ↦ rfl

end Settings

namespace Session

open Visit (sent sent_nil sent_singleton sent_cons)

variable (lastly : Reply)

/-- A session keeps its settings. -/
theorem settings_after (s : Session) (t : Turn) (v : Visit) :
    (s.after t v).settings = s.settings := by
  rw [after]
  split <;> rfl

/-- Only the settings of a session count, not its pace. -/
theorem run_congr {s s' : Session} (h : s.settings = s'.settings) (replies : List Reply)
    (turns : List Turn) : s.run lastly replies turns = s'.run lastly replies turns := by
  induction turns generalizing s s' replies with
  | nil => rfl
  | cons t turns ih =>
    have later (v : Visit) : (s.after t v).settings = (s'.after t v).settings := by
      rw [settings_after, settings_after, h]
    rw [run, run, h, ih (later _)]

/-- The first call takes the first reply if it sends a request, and the calls after it go on with
the others. -/
theorem run_cons (s : Session) (replies : List Reply) (t : Turn) (turns : List Turn) :
    s.run lastly replies (t :: turns) =
      let v := s.settings.visit t.call (replies.headD lastly)
      v :: s.run lastly (replies.drop (sent [v])) turns := by
  have left (v : Visit) :
      (if v.request.isSome then replies.tail else replies) = replies.drop (sent [v]) := by
    rw [sent_singleton]
    split
    · exact List.drop_one.symm
    · exact List.drop_zero.symm
  simp only [run, run_congr lastly (settings_after s t _), left]

theorem length_run (s : Session) (replies : List Reply) (turns : List Turn) :
    (s.run lastly replies turns).length = turns.length := by
  induction turns generalizing replies with
  | nil => rfl
  | cons t turns ih => rw [run_cons, List.length_cons, ih, List.length_cons]

/-- Each call is visited with the reply that comes after those which the calls before it have
taken. -/
theorem getElem?_run (s : Session) (replies : List Reply) (turns : List Turn) (i : Nat) :
    (s.run lastly replies turns)[i]? = turns[i]?.map fun t ↦
      s.settings.visit t.call
        (replies.getD (sent ((s.run lastly replies turns).take i)) lastly) := by
  induction turns generalizing replies i with
  | nil => rfl
  | cons t turns ih =>
    rw [run_cons]
    cases i with
    | zero =>
      rw [List.take_zero, sent_nil, List.getElem?_cons_zero, List.getElem?_cons_zero]
      cases replies <;> rfl
    | succ i =>
      rw [List.getElem?_cons_succ, List.getElem?_cons_succ, List.take_succ_cons, ih]
      simp only [List.getD_eq_getElem?_getD, List.getElem?_drop, ← sent_cons]

/-- What follows on some calls is a session of its own with the replies that are left. -/
theorem drop_run (s : Session) (replies : List Reply) (turns : List Turn) (n : Nat) :
    (s.run lastly replies turns).drop n =
      s.run lastly (replies.drop (sent ((s.run lastly replies turns).take n))) (turns.drop n) := by
  induction turns generalizing replies n with
  | nil => rw [List.drop_nil, run, List.drop_nil, run]
  | cons t turns ih =>
    cases n with
    | zero => rfl
    | succ n =>
      rw [run_cons, List.drop_succ_cons, List.drop_succ_cons, List.take_succ_cons, ih,
        List.drop_drop, ← sent_cons]

/-- Each call of a row sends one request if its address is valid and the service is configured, and
none otherwise; the requests take the replies in order; and what becomes of a call depends only on
the settings, the network, the address and the reply it takes, so that the calls after any others
fare as if they were the first. -/
theorem isOf_run (s : Session) (lastly : Reply) (replies : List Reply) (turns : List Turn) :
    let visits := s.run lastly replies turns
    let reply := fun i ↦ replies.getD (sent (visits.take i)) lastly
    visits.length = turns.length ∧
    (∀ i t, turns[i]? = some t → ∃ v : Visit, visits[i]? = some v ∧
      v.IsOf s.settings t.call.target.1 t.call.target.2 (reply i)) ∧
    (∀ n, visits.drop n =
      s.run lastly (replies.drop (sent (visits.take n))) (turns.drop n)) ∧
    ∀ (s' : Session) (lastly' : Reply) (replies' : List Reply) (turns' : List Turn) (i j : Nat),
      s'.settings = s.settings →
      (turns[i]?.map fun t ↦ t.call.target) = (turns'[j]?.map fun t ↦ t.call.target) →
      reply i =
        replies'.getD (sent ((s'.run lastly' replies' turns').take j)) lastly' →
      visits[i]? = (s'.run lastly' replies' turns')[j]? := by
  intro visits reply
  refine ⟨length_run lastly s replies turns, ?_, drop_run lastly s replies turns, ?_⟩
  · intro i t here
    refine ⟨s.settings.visit t.call (reply i), ?_, s.settings.isOf_visit t.call (reply i)⟩
    rw [getElem?_run, here]
    rfl
  · intro s' lastly' replies' turns' i j settings target same
    rw [getElem?_run, getElem?_run, settings]
    cases here : turns[i]? with
    | none =>
      cases there : turns'[j]? with
      | none => rfl
      | some t' => simp [here, there] at target
    | some t =>
      cases there : turns'[j]? with
      | none => simp [here, there] at target
      | some t' =>
        rw [here, there, Option.map_some, Option.map_some, Option.some.injEq] at target
        rw [Option.map_some, Option.map_some, ← same]
        exact congrArg some (s.settings.visit_congr target (reply i))

end Session

end ContractScan
