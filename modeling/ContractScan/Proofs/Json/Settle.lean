import ContractScan.Proofs.Json.Reader
import ContractScan.Proofs.Settings.Keyed

/-!
# Taking in a JSON value whole

A value is taken in whole if it is readable and not nested too deeply (`isSome_settle?`), and so is
a text that stands for such a value (`parse?_eq_some_iff`). Of several members of one name the last
one counts (`exists_of_lastMember`), in the place of the first (`map_fst_of_settleMembers?_nil`).
-/

namespace ContractScan.Json

open Grammar

/-! ### Which values are taken in -/

/-- The greater of two levels is nowhere or below a bound if both are. -/
theorem max_eq_zero_or_lt_iff (a b room : Nat) :
    max a b = 0 ∨ max a b < room ↔ (a = 0 ∨ a < room) ∧ (b = 0 ∨ b < room) := by
  omega

theorem depth_succ_lt_iff {room : Nat} (outside : ¬ room ≤ 1) (d : Nat) :
    d = 0 ∨ d < room - 1 ↔ d + 1 = 0 ∨ d + 1 < room := by
  omega

mutual

/-- A value is taken in whole if it is readable and stays below the bound; one without levels always
does. -/
theorem isSome_settle? (room : Nat) : (j : Json) →
    ((settle? room j).isSome = true ↔ j.readable = true ∧ (j.depth = 0 ∨ j.depth < room))
  | .null | .bool _ | .number _ | .text _ | .unreadable => by simp [settle?, readable, depth]
  | .array xs => by
    rw [settle?, readable, depth]
    split
    next inside => simp; omega
    next outside =>
      rw [Option.isSome_map, isSome_settleItems? (room - 1) xs, depth_succ_lt_iff outside]
  | .object ms => by
    rw [settle?, readable, depth]
    split
    next inside => simp; omega
    next outside =>
      rw [Option.isSome_map, isSome_settleMembers? (room - 1) ms, depth_succ_lt_iff outside]

theorem isSome_settleItems? (room : Nat) : (xs : List Json) →
    ((settleItems? room xs).isSome = true ↔
      readableItems xs = true ∧ (depthItems xs = 0 ∨ depthItems xs < room))
  | [] => by simp [settleItems?, readableItems, depthItems]
  | x :: xs => by
    have both : (settleItems? room (x :: xs)).isSome =
        ((settle? room x).isSome && (settleItems? room xs).isSome) := by
      rw [settleItems?]
      cases settle? room x <;> cases settleItems? room xs <;> rfl
    rw [both, readableItems, depthItems, Bool.and_eq_true, Bool.and_eq_true,
      isSome_settle? room x, isSome_settleItems? room xs, max_eq_zero_or_lt_iff,
      and_and_and_comm]

theorem isSome_settleMembers? (room : Nat) : (ms done : List (String × Json)) →
    ((settleMembers? room ms done).isSome = true ↔
      readableMembers ms = true ∧ (depthMembers ms = 0 ∨ depthMembers ms < room))
  | [], done => by simp [settleMembers?, readableMembers, depthMembers]
  | (name, x) :: ms, done => by
    have first := isSome_settle? room x
    rw [settleMembers?, readableMembers, depthMembers, Bool.and_eq_true, max_eq_zero_or_lt_iff,
      and_and_and_comm, ← first]
    cases settle? room x with
    | none => simp
    | some y =>
      rw [Option.bind_eq_bind, Option.bind_some, isSome_settleMembers? room ms]
      simp

end

mutual

/-- Only a readable value has a text that stands for it. -/
theorem readable_of_value {j : Json} {s : List Char} : Value j s → j.readable = true
  | .null | .yes | .no | .number _ | .negative _ | .text _ | .noItems _ | .noMembers _ => rfl
  | .array items => readable_of_elements items
  | .object members => readable_of_members members

theorem readable_of_element {j : Json} {s : List Char} : Element j s → j.readable = true
  | .intro _ value _ => readable_of_value value

theorem readable_of_elements {xs : List Json} {s : List Char} :
    Elements xs s → readableItems xs = true
  | .last item => by rw [readableItems, readable_of_element item]; rfl
  | .next item rest => by
    rw [readableItems, readable_of_element item, readable_of_elements rest]; rfl

theorem readable_of_member {m : String × Json} {s : List Char} : Member m s → m.2.readable = true
  | .intro _ _ _ value => readable_of_element value

theorem readable_of_members {ms : List (String × Json)} {s : List Char} :
    Members ms s → readableMembers ms = true
  | .last member => by rw [readableMembers, readable_of_member member]; rfl
  | .next member rest => by
    rw [readableMembers, readable_of_member member, readable_of_members rest]; rfl

end

/-- A text can be taken in whole just when it stands for a value that is not nested too deeply. -/
theorem parse?_eq_some_iff {s : List Char} {v : Json} :
    parse? s = some v ↔
      ∃ j, Element j s ∧ j.depth < maxDepth ∧ settle? maxDepth j = some v := by
  rw [parse?, Option.bind_eq_some_iff]
  constructor
  · rintro ⟨j, read, settled⟩
    obtain ⟨readable, level⟩ := (isSome_settle? maxDepth j).mp (settled ▸ rfl)
    exact ⟨j, (scan?_eq_some_iff readable).mp read, by simp [maxDepth] at *; omega, settled⟩
  · rintro ⟨j, element, -, settled⟩
    exact ⟨j, (scan?_eq_some_iff (readable_of_element element)).mpr element, settled⟩

/-! ### What becomes of the members -/

/-- The value is that of the last member with the name. -/
def LastMember (name : String) (x : Json) (ms : List (String × Json)) : Prop :=
  ∃ before after, ms = before ++ (name, x) :: after ∧ name ∉ after.map Prod.fst

section Members

variable {room : Nat} {name : String} {x : Json} {ms done out : List (String × Json)}

theorem lookup_putMember (key : String) :
    (putMember name x ms).lookup key = if key = name then some x else ms.lookup key := by
  induction ms with
  | nil => rw [putMember, Keyed.lookup_cons_eq_ite]
  | cons m ms ih =>
    rw [putMember]
    split
    next same =>
      rw [Keyed.lookup_cons_eq_ite, Keyed.lookup_cons_eq_ite, beq_iff_eq.mp same]
      split <;> rfl
    next other =>
      rw [Keyed.lookup_cons_eq_ite, ih, Keyed.lookup_cons_eq_ite]
      by_cases same : key = name
      · rw [if_pos same, if_pos same, if_neg]
        intro also
        exact other (beq_iff_eq.mpr (also.symm.trans same))
      · rw [if_neg same, if_neg same]

theorem map_fst_putMember :
    (putMember name x ms).map Prod.fst =
      if name ∈ ms.map Prod.fst then ms.map Prod.fst else ms.map Prod.fst ++ [name] := by
  induction ms with
  | nil => rfl
  | cons m ms ih =>
    rw [putMember]
    by_cases same : m.1 = name
    · simp [same]
    · have other : ¬ name = m.1 := fun eq ↦ same eq.symm
      simp only [beq_eq_false_iff_ne.mpr same, Bool.false_eq_true, if_false, List.map_cons, ih,
        List.mem_cons, other, false_or]
      split <;> rfl

theorem settleMembers?_append (ms ms' done : List (String × Json)) :
    settleMembers? room (ms ++ ms') done =
      (settleMembers? room ms done).bind (settleMembers? room ms' ·) := by
  induction ms generalizing done with
  | nil => rfl
  | cons m ms ih =>
    rw [List.cons_append, settleMembers?, settleMembers?]
    cases settle? room m.2 with
    | none => rfl
    | some y => exact ih _

theorem lookup_of_settleMembers? (absent : name ∉ ms.map Prod.fst)
    (settled : settleMembers? room ms done = some out) : out.lookup name = done.lookup name := by
  induction ms generalizing done with
  | nil => cases settled; rfl
  | cons m ms ih =>
    rw [List.map_cons, List.mem_cons, not_or] at absent
    obtain ⟨y, -, rest⟩ := Option.bind_eq_some_iff.mp settled
    rw [ih absent.2 rest, lookup_putMember, if_neg absent.1]

/-- New names come after those already there, each where it stands first. -/
theorem map_fst_of_settleMembers? (settled : settleMembers? room ms done = some out) :
    out.map Prod.fst =
      done.map Prod.fst ++
        ((ms.map Prod.fst).filter fun name ↦ name ∉ done.map Prod.fst).eraseDups := by
  induction ms generalizing done with
  | nil => cases settled; simp
  | cons m ms ih =>
    obtain ⟨y, -, rest⟩ := Option.bind_eq_some_iff.mp settled
    rw [ih rest, map_fst_putMember, List.map_cons]
    by_cases there : m.1 ∈ done.map Prod.fst
    · rw [if_pos there, List.filter_cons_of_neg (by simpa using there)]
    · rw [if_neg there, List.filter_cons_of_pos (by simpa using there), List.eraseDups_cons,
        List.filter_filter, List.append_assoc, List.singleton_append]
      simp only [List.mem_append, List.mem_singleton, not_or]
      congr 4
      funext name
      simp [Bool.and_comm, beq_eq_decide]

theorem exists_of_settle?_object {v : Json} (settled : settle? room (.object ms) = some v) :
    ∃ out, v = .object out ∧ settleMembers? (room - 1) ms [] = some out := by
  rw [settle?] at settled
  split at settled
  next => cases settled
  next =>
    obtain ⟨out, within, rfl⟩ := Option.map_eq_some_iff.mp settled
    exact ⟨out, rfl, within⟩

/-- Of several members of one name the last one is found. -/
theorem exists_of_lastMember (last : LastMember name x ms)
    (settled : settleMembers? room ms done = some out) :
    ∃ y, settle? room x = some y ∧ out.lookup name = some y := by
  obtain ⟨before, after, rfl, absent⟩ := last
  rw [settleMembers?_append] at settled
  obtain ⟨front, -, fromHere⟩ := Option.bind_eq_some_iff.mp settled
  obtain ⟨y, item, rest⟩ := Option.bind_eq_some_iff.mp fromHere
  refine ⟨y, item, ?_⟩
  calc out.lookup name
    _ = (putMember name y front).lookup name := lookup_of_settleMembers? absent rest
    _ = some y := by rw [lookup_putMember, if_pos rfl]

/-- The names keep their order, each where it stands first. -/
theorem map_fst_of_settleMembers?_nil (settled : settleMembers? room ms [] = some out) :
    out.map Prod.fst = (ms.map Prod.fst).eraseDups := by
  simpa using map_fst_of_settleMembers? settled

/-- The names stay different from each other. -/
theorem nodup_of_settleMembers? (nodup : (done.map Prod.fst).Nodup)
    (settled : settleMembers? room ms done = some out) : (out.map Prod.fst).Nodup := by
  induction ms generalizing done with
  | nil => cases settled; exact nodup
  | cons m ms ih =>
    obtain ⟨y, -, rest⟩ := Option.bind_eq_some_iff.mp settled
    refine ih ?_ rest
    rw [map_fst_putMember]
    split
    next => exact nodup
    next absent =>
      refine List.nodup_append.mpr ⟨nodup, List.pairwise_singleton _ _, fun name mem other same ↦ ?_⟩
      rw [List.mem_singleton.mp same]
      exact fun eq ↦ absent (eq ▸ mem)

theorem mem_map_fst_of_settleMembers? (settled : settleMembers? room ms done = some out) :
    name ∈ out.map Prod.fst ↔ name ∈ done.map Prod.fst ∨ name ∈ ms.map Prod.fst := by
  induction ms generalizing done with
  | nil => cases settled; simp
  | cons m ms ih =>
    obtain ⟨y, -, rest⟩ := Option.bind_eq_some_iff.mp settled
    rw [ih rest, map_fst_putMember, List.map_cons, List.mem_cons]
    split
    next there =>
      constructor
      · exact Or.imp_right .inr
      · rintro (old | rfl | new)
        exacts [.inl old, .inl there, .inr new]
    next => rw [List.mem_append, List.mem_singleton, or_assoc]

theorem exists_lastMember_of_mem (mem : name ∈ ms.map Prod.fst) : ∃ x, LastMember name x ms := by
  induction ms with
  | nil => cases mem
  | cons m ms ih =>
    by_cases later : name ∈ ms.map Prod.fst
    · obtain ⟨x, before, after, rfl, absent⟩ := ih later
      exact ⟨x, m :: before, after, rfl, absent⟩
    · rcases List.mem_cons.mp mem with rfl | late
      · exact ⟨m.2, [], ms, rfl, later⟩
      · exact absurd late later

/-- What is found is the last member of its name. -/
theorem exists_lastMember_of_lookup (settled : settleMembers? room ms [] = some out) {y : Json}
    (found : out.lookup name = some y) :
    ∃ x, LastMember name x ms ∧ settle? room x = some y := by
  have there : name ∈ ms.map Prod.fst := by
    have mem := List.mem_map_of_mem (f := Prod.fst) (Keyed.mem_of_lookup found)
    simpa using (mem_map_fst_of_settleMembers? settled).mp mem
  obtain ⟨x, last⟩ := exists_lastMember_of_mem there
  obtain ⟨z, item, also⟩ := exists_of_lastMember last settled
  cases found.symm.trans also
  exact ⟨x, last, item⟩

theorem exists_of_settle?_array {xs : List Json} {v : Json}
    (settled : settle? room (.array xs) = some v) : ∃ ys, v = .array ys := by
  rw [settle?] at settled
  split at settled
  next => cases settled
  next =>
    obtain ⟨ys, -, rfl⟩ := Option.map_eq_some_iff.mp settled
    exact ⟨ys, rfl⟩

/-- An object is taken in from an object only. -/
theorem exists_of_settle?_eq_object {j : Json} (settled : settle? room j = some (.object out)) :
    ∃ ms, j = .object ms ∧ settleMembers? (room - 1) ms [] = some out := by
  cases j with
  | object ms =>
    obtain ⟨out', same, within⟩ := exists_of_settle?_object settled
    cases same
    exact ⟨ms, rfl, within⟩
  | array xs =>
    obtain ⟨ys, same⟩ := exists_of_settle?_array settled
    cases same
  | _ => cases settled

/-- A text is taken in from itself only. -/
theorem eq_of_settle?_eq_text {j : Json} {t : String} (settled : settle? room j = some (.text t)) :
    j = .text t := by
  cases j with
  | object ms =>
    obtain ⟨out', same, -⟩ := exists_of_settle?_object settled
    cases same
  | array xs =>
    obtain ⟨ys, same⟩ := exists_of_settle?_array settled
    cases same
  | text s =>
    cases settled
    rfl
  | _ => cases settled

end Members

end ContractScan.Json
