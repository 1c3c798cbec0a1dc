import ContractScan.Proofs.Json.Token

/-!
# Reading JSON text

The reader follows the grammar: a text is read as a value just when it stands for it, with white
space around it (`scan?_eq_some_iff`). So no text stands for two values.
-/

namespace ContractScan.Json

open ContractScan.Json.Parser Grammar

/-- A member whose name is readable. -/
def named (m : String × Json) : Option String × Json := (some m.1, m.2)

section Steps

variable {fuel : Nat} {s t r w : List Char} {xs : List Json} {ms : List (String × Json)}

theorem ofMembers_map_named (ms : List (String × Json)) :
    ofMembers (ms.map named) = .object ms := by
  simp [ofMembers, named, Function.comp_def]

theorem value_skip (fuel : Nat) (s : List Char) : value fuel (skip s) = value fuel s := by
  cases fuel with
  | zero => rfl
  | succ fuel => rw [value, value, skip_skip]

theorem items_skip (fuel : Nat) (s : List Char) : items fuel (skip s) = items fuel s := by
  cases fuel with
  | zero => rfl
  | succ fuel => rw [items, items, value_skip]

theorem member_skip (fuel : Nat) (s : List Char) : member fuel (skip s) = member fuel s := by
  cases fuel with
  | zero => rfl
  | succ fuel => rw [member, member, skip_skip]

theorem members_skip (fuel : Nat) (s : List Char) : members fuel (skip s) = members fuel s := by
  cases fuel with
  | zero => rfl
  | succ fuel => rw [members, members, member_skip]

theorem value_of_first {c : Char} (start : skip s = c :: t) (first : c = '-' ∨ c.isDigit = true) :
    value (fuel + 1) s = Parser.number (c :: t) := by
  rw [value.eq_def]
  dsimp only
  rw [start]
  split
  all_goals first | rfl | skip
  all_goals next eq =>
    cases eq
    exact absurd first (by decide)

theorem items_bracket (fuel : Nat) (r : List Char) : items fuel (']' :: r) = none := by
  match fuel with
  | 0 => rfl
  | 1 => rfl
  | fuel + 2 => rfl

theorem members_brace (fuel : Nat) (r : List Char) : members fuel ('}' :: r) = none := by
  match fuel with
  | 0 => rfl
  | 1 => rfl
  | fuel + 2 => rfl

theorem value_quote (start : skip s = '"' :: t) :
    value (fuel + 1) s = (Parser.text t).map fun (u, r) ↦ (ofText u, r) := by
  rw [value, start]
  rfl

theorem value_bracket (start : skip s = '[' :: t) :
    value (fuel + 1) s =
      match skip t with
      | ']' :: r => some (.array [], r)
      | r => (items fuel r).map fun (xs, r) ↦ (.array xs, r) := by
  rw [value, start]
  rfl

theorem value_brace (start : skip s = '{' :: t) :
    value (fuel + 1) s =
      match skip t with
      | '}' :: r => some (.object [], r)
      | r => (members fuel r).map fun (ms, r) ↦ (ofMembers ms, r) := by
  rw [value, start]
  rfl

theorem value_array (start : skip s = '[' :: t) (inside : items fuel t = some (xs, r)) :
    value (fuel + 1) s = some (.array xs, r) := by
  rw [← items_skip] at inside
  rw [value_bracket start]
  split
  next r' bracket =>
    rw [bracket, items_bracket] at inside
    cases inside
  next => rw [inside]; rfl

theorem value_object (start : skip s = '{' :: t)
    (inside : members fuel t = some (ms.map named, r)) :
    value (fuel + 1) s = some (.object ms, r) := by
  rw [← members_skip] at inside
  rw [value_brace start]
  split
  next r' brace =>
    rw [brace, members_brace] at inside
    cases inside
  next => rw [inside, ← ofMembers_map_named]; rfl

theorem items_last {x : Json} (read : value fuel s = some (x, t)) (left : skip t = ']' :: r) :
    items (fuel + 1) s = some ([x], r) := by
  rw [items, read]
  dsimp only
  rw [left]
  rfl

theorem items_next {x : Json} (read : value fuel s = some (x, t)) (left : skip t = ',' :: r) :
    items (fuel + 1) s = (items fuel r).map fun (xs, r) ↦ (x :: xs, r) := by
  rw [items, read]
  dsimp only
  rw [left]
  rfl

theorem member_of_text {name : String} (start : skip s = '"' :: t)
    (read : Parser.text t = some (some name, w)) (colon : skip w = ':' :: r) :
    member (fuel + 1) s = (value fuel r).map fun (x, r) ↦ (named (name, x), r) := by
  simp only [member, start, read, colon, named]

theorem members_last {m : Option String × Json} (read : member fuel s = some (m, t))
    (left : skip t = '}' :: r) : members (fuel + 1) s = some ([m], r) := by
  rw [members, read]
  dsimp only
  rw [left]
  rfl

theorem members_next {m : Option String × Json} (read : member fuel s = some (m, t))
    (left : skip t = ',' :: r) :
    members (fuel + 1) s = (members fuel r).map fun (ms, r) ↦ (m :: ms, r) := by
  rw [members, read]
  dsimp only
  rw [left]
  rfl

end Steps

/-! ### What stands for a value is read as it -/

section Complete

variable {s w r : List Char} {c : Char}

theorem stops_cons (inked : c = ',' ∨ c = ']' ∨ c = '}') : Stops (c :: r) := by
  rcases inked with rfl | rfl | rfl <;> simp [Stops]

theorem stops_blank_append (blank : Blank w) (stop : Stops r) : Stops (w ++ r) := by
  cases w with
  | nil => exact stop
  | cons c w =>
    rcases blank c (.head w) with rfl | rfl | rfl | rfl <;> simp [Stops]

theorem magnitude_first {negative : Bool} {n : Number} (number : Magnitude negative n s) :
    ∃ c t, s = c :: t ∧ c.isDigit = true := by
  obtain ⟨row, -, -, -⟩ := number
  rename_i ws fs f x e scaled
  cases ws with
  | nil => exact absurd rfl row.ne
  | cons c ws => exact ⟨c, _, rfl, row.all c (.head ws)⟩

theorem not_space_of_first (first : c = '-' ∨ c.isDigit = true) : ¬ Space c := by
  rintro (rfl | rfl | rfl | rfl)
  all_goals exact absurd first (by decide)

theorem number_of_first {t : List Char} (first : c.isDigit = true) :
    Parser.number (c :: t) = magnitude false (c :: t) := by
  rw [Parser.number]
  rintro s ⟨⟩
  exact absurd first (by decide)

mutual

theorem value_append {j : Json} {s w r : List Char} (blank : Blank w) (stop : Stops r) :
    (fuel : Nat) → Value j s → s.length < fuel → value fuel (w ++ (s ++ r)) = some (j, r)
  | 0, _, enough => absurd enough (Nat.not_lt_zero _)
  | fuel + 1, .null, _ => by
    rw [value, List.cons_append, skip_append_cons blank (by decide)]
    rfl
  | fuel + 1, .yes, _ => by
    rw [value, List.cons_append, skip_append_cons blank (by decide)]
    rfl
  | fuel + 1, .no, _ => by
    rw [value, List.cons_append, skip_append_cons blank (by decide)]
    rfl
  | fuel + 1, .number magnitude, _ => by
    obtain ⟨c, t, rfl, first⟩ := magnitude_first magnitude
    rw [List.cons_append, value_of_first (skip_append_cons blank (not_space_of_first (.inr first)))
      (.inr first), number_of_first first]
    exact magnitude_append magnitude stop
  | fuel + 1, .negative magnitude, _ => by
    rw [List.cons_append, value_of_first (skip_append_cons blank (by decide)) (.inl rfl)]
    exact magnitude_append magnitude stop
  | fuel + 1, .text quoted, _ => by
    rw [List.append_assoc, List.cons_append, List.singleton_append,
      value_quote (skip_append_cons blank (by decide)), text_append quoted]
    rfl
  | fuel + 1, .noItems inside, _ => by
    rw [List.append_assoc, List.cons_append, List.singleton_append,
      value_bracket (skip_append_cons blank (by decide)), skip_append_cons inside (by decide)]
    rfl
  | fuel + 1, .array items, enough => by
    rw [List.length_append, List.length_cons, List.length_singleton] at enough
    rw [List.append_assoc, List.cons_append, List.singleton_append]
    exact value_array (skip_append_cons blank (by decide))
      (items_elements fuel items (Nat.lt_of_succ_lt_succ enough))
  | fuel + 1, .noMembers inside, _ => by
    rw [List.append_assoc, List.cons_append, List.singleton_append,
      value_brace (skip_append_cons blank (by decide)), skip_append_cons inside (by decide)]
    rfl
  | fuel + 1, .object members, enough => by
    rw [List.length_append, List.length_cons, List.length_singleton] at enough
    rw [List.append_assoc, List.cons_append, List.singleton_append]
    exact value_object (skip_append_cons blank (by decide))
      (members_members fuel members (Nat.lt_of_succ_lt_succ enough))

theorem value_element {j : Json} {s r : List Char} (stop : Stops r) (fuel : Nat) :
    Element j s → s.length < fuel → ∃ t, value fuel (s ++ r) = some (j, t) ∧ skip t = skip r
  | .intro before v after, enough => by
    rw [List.length_append, List.length_append] at enough
    have read := value_append before (stops_blank_append after stop) fuel v (by omega)
    rw [List.append_assoc, List.append_assoc]
    exact ⟨_, read, skip_append after⟩

theorem items_elements {xs : List Json} {s r : List Char} :
    (fuel : Nat) → Elements xs s → s.length + 1 < fuel → items fuel (s ++ ']' :: r) = some (xs, r)
  | 0, _, enough => absurd enough (Nat.not_lt_zero _)
  | fuel + 1, .last item, enough => by
    obtain ⟨t, read, left⟩ := value_element (stops_cons (.inr (.inl rfl))) fuel item (by omega)
    exact items_last read (left.trans (skip_cons (by decide)))
  | fuel + 1, .next item rest, enough => by
    rw [List.length_append, List.length_cons] at enough
    rw [List.append_assoc, List.cons_append]
    obtain ⟨t, read, left⟩ := value_element (stops_cons (.inl rfl)) fuel item (by omega)
    rw [items_next read (left.trans (skip_cons (by decide))),
      items_elements fuel rest (by omega)]
    rfl

theorem member_member {m : String × Json} {s r : List Char} (stop : Stops r) :
    (fuel : Nat) → Member m s → s.length < fuel →
    ∃ t, member fuel (s ++ r) = some (named m, t) ∧ skip t = skip r
  | 0, _, enough => absurd enough (Nat.not_lt_zero _)
  | fuel + 1, .intro before quoted after v, enough => by
    simp only [List.length_append, List.length_cons] at enough
    simp only [List.append_assoc, List.cons_append]
    obtain ⟨t, read, left⟩ := value_element stop fuel v (by omega)
    refine ⟨t, ?_, left⟩
    rw [member_of_text (skip_append_cons before (by decide)) (text_append quoted)
      (skip_append_cons after (by decide)), read]
    rfl

theorem members_members {ms : List (String × Json)} {s r : List Char} :
    (fuel : Nat) → Members ms s → s.length + 1 < fuel →
    members fuel (s ++ '}' :: r) = some (ms.map named, r)
  | 0, _, enough => absurd enough (Nat.not_lt_zero _)
  | fuel + 1, .last member, enough => by
    obtain ⟨t, read, left⟩ := member_member (stops_cons (.inr (.inr rfl))) fuel member (by omega)
    exact members_last read (left.trans (skip_cons (by decide)))
  | fuel + 1, .next member rest, enough => by
    rw [List.length_append, List.length_cons] at enough
    rw [List.append_assoc, List.cons_append]
    obtain ⟨t, read, left⟩ := member_member (stops_cons (.inl rfl)) fuel member (by omega)
    rw [members_next read (left.trans (skip_cons (by decide))),
      members_members fuel rest (by omega)]
    rfl

end

end Complete

/-! ### What is read as a value stands for it -/

theorem eq_map_named_of_readable {ms : List (Option String × Json)}
    (readable : (ofMembers ms).readable = true) :
    ∃ ms', ms = ms'.map named ∧ readableMembers ms' = true := by
  rw [ofMembers] at readable
  split at readable
  next all =>
    refine ⟨_, ?_, readable⟩
    rw [List.map_map]
    refine (List.map_id _).symm.trans (List.map_congr_left fun m mem ↦ ?_)
    obtain ⟨name, given⟩ := Option.isSome_iff_exists.mp (List.all_eq_true.mp all m mem)
    simp [named, given, Prod.ext_iff]
  next => cases readable

theorem exists_append_cons {s t : List Char} {c : Char} (start : skip s = c :: t) :
    ∃ w, Blank w ∧ s = w ++ c :: t := by
  obtain ⟨w, blank, cut⟩ := exists_blank_append_skip s
  exact ⟨w, blank, start ▸ cut⟩

theorem exists_of_number {j : Json} {s r : List Char} (h : Parser.number s = some (j, r))
    (readable : j.readable = true) : ∃ t, Value j t ∧ s = t ++ r := by
  rw [Parser.number.eq_def] at h
  split at h
  all_goals obtain ⟨n, t, rfl, magnitude, rfl⟩ := exists_of_magnitude h readable
  · exact ⟨_, .negative magnitude, rfl⟩
  · exact ⟨_, .number magnitude, rfl⟩

/-- The white space after a value belongs to it. -/
theorem exists_element {j : Json} {s t : List Char}
    (found : ∃ w v, Blank w ∧ Value j v ∧ s = w ++ (v ++ t)) :
    ∃ e, Element j e ∧ s = e ++ skip t := by
  obtain ⟨w, v, before, value, rfl⟩ := found
  obtain ⟨w', after, cut⟩ := exists_blank_append_skip t
  refine ⟨_, .intro before value after, ?_⟩
  rw [List.append_assoc, List.append_assoc, ← cut]

mutual

theorem exists_of_value {j : Json} {s r : List Char} :
    (fuel : Nat) → value fuel s = some (j, r) → j.readable = true →
    ∃ w t, Blank w ∧ Value j t ∧ s = w ++ (t ++ r)
  | 0, h, _ => by cases h
  | fuel + 1, h, readable => by
    obtain ⟨w, blank, cut⟩ := exists_blank_append_skip s
    rw [value.eq_def] at h
    dsimp only at h
    generalize skip s = rest at h cut
    subst cut
    split at h
    · cases h
      exact ⟨w, _, blank, .null, rfl⟩
    · cases h
      exact ⟨w, _, blank, .yes, rfl⟩
    · cases h
      exact ⟨w, _, blank, .no, rfl⟩
    · obtain ⟨⟨t, r⟩, read, same⟩ := Option.map_eq_some_iff.mp h
      cases same
      cases t with
      | none => cases readable
      | some t =>
        obtain ⟨q, quoted, rfl⟩ := exists_of_text read
        exact ⟨w, _, blank, .text quoted, by simp⟩
    · split at h
      next close =>
        cases h
        obtain ⟨w', inside, rfl⟩ := exists_append_cons close
        exact ⟨w, _, blank, .noItems inside, by simp⟩
      next =>
        obtain ⟨⟨xs, r⟩, read, same⟩ := Option.map_eq_some_iff.mp h
        cases same
        obtain ⟨t, elements, rfl⟩ := exists_of_items fuel (items_skip .. ▸ read) readable
        exact ⟨w, _, blank, .array elements, by simp⟩
    · split at h
      next close =>
        cases h
        obtain ⟨w', inside, rfl⟩ := exists_append_cons close
        exact ⟨w, _, blank, .noMembers inside, by simp⟩
      next =>
        obtain ⟨⟨ms, r⟩, read, same⟩ := Option.map_eq_some_iff.mp h
        cases same
        obtain ⟨ms, rfl, parts⟩ := eq_map_named_of_readable readable
        obtain ⟨t, members, rfl⟩ := exists_of_members fuel (members_skip .. ▸ read) parts
        rw [ofMembers_map_named]
        exact ⟨w, _, blank, .object members, by simp⟩
    · obtain ⟨t, v, rfl⟩ := exists_of_number h readable
      exact ⟨w, t, blank, v, rfl⟩

theorem exists_of_items {xs : List Json} {s r : List Char} :
    (fuel : Nat) → items fuel s = some (xs, r) → readableItems xs = true →
    ∃ t, Elements xs t ∧ s = t ++ ']' :: r
  | 0, h, _ => by cases h
  | fuel + 1, h, readable => by
    rw [items] at h
    split at h
    next => cases h
    next x t read =>
      split at h
      next comma =>
        obtain ⟨⟨xs, r⟩, more, same⟩ := Option.map_eq_some_iff.mp h
        cases same
        rw [readableItems, Bool.and_eq_true] at readable
        obtain ⟨e, element, rfl⟩ := exists_element (exists_of_value fuel read readable.1)
        obtain ⟨t, elements, rest⟩ := exists_of_items fuel more readable.2
        exact ⟨_, .next element elements, by simp [comma, rest]⟩
      next close =>
        cases h
        rw [readableItems, Bool.and_eq_true] at readable
        obtain ⟨e, element, rfl⟩ := exists_element (exists_of_value fuel read readable.1)
        exact ⟨_, .last element, by rw [close]⟩
      next => cases h

theorem exists_of_member {m : String × Json} {s r : List Char} :
    (fuel : Nat) → member fuel s = some (named m, r) → m.2.readable = true →
    ∃ t, Member m t ∧ s = t ++ skip r
  | 0, h, _ => by cases h
  | fuel + 1, h, readable => by
    rw [member] at h
    split at h
    next quote =>
      split at h
      next => cases h
      next name t read =>
        split at h
        next colon =>
          obtain ⟨⟨x, r⟩, more, same⟩ := Option.map_eq_some_iff.mp h
          cases same
          obtain ⟨w, before, rfl⟩ := exists_append_cons quote
          obtain ⟨q, quoted, rfl⟩ := exists_of_text read
          obtain ⟨w', after, rfl⟩ := exists_append_cons colon
          obtain ⟨e, element, rfl⟩ := exists_element (exists_of_value fuel more readable)
          exact ⟨_, .intro before quoted after element, by simp⟩
        next => cases h
    next => cases h

theorem exists_of_members {ms : List (String × Json)} {s r : List Char} :
    (fuel : Nat) → members fuel s = some (ms.map named, r) → readableMembers ms = true →
    ∃ t, Members ms t ∧ s = t ++ '}' :: r
  | 0, h, _ => by cases h
  | fuel + 1, h, readable => by
    rw [members] at h
    split at h
    next => cases h
    next m' t read =>
      cases ms with
      | nil => split at h <;> simp at h
      | cons m ms =>
        rw [readableMembers, Bool.and_eq_true] at readable
        split at h
        next comma =>
          obtain ⟨⟨ms', r⟩, more, same⟩ := Option.map_eq_some_iff.mp h
          cases same
          obtain ⟨t, first, rfl⟩ := exists_of_member fuel read readable.1
          obtain ⟨t', others, rest⟩ := exists_of_members fuel more readable.2
          exact ⟨_, .next first others, by simp [comma, rest]⟩
        next close =>
          obtain ⟨only, rfl⟩ := Prod.mk.inj (Option.some.inj h)
          obtain ⟨rfl, none⟩ := List.cons.inj only
          cases List.map_eq_nil_iff.mp none.symm
          obtain ⟨t, first, rfl⟩ := exists_of_member fuel read readable.1
          exact ⟨_, .last first, by rw [close]⟩
        next => cases h

end

/-- A text is read as a readable value just when it stands for it. -/
theorem scan?_eq_some_iff {j : Json} {s : List Char} (readable : j.readable = true) :
    scan? s = some j ↔ Element j s := by
  constructor
  · intro h
    rw [scan?] at h
    split at h
    next j' r read =>
      split at h
      next blank =>
        cases h
        obtain ⟨e, element, rfl⟩ := exists_element (exists_of_value _ read readable)
        rwa [List.isEmpty_iff.mp blank, List.append_nil]
      next => cases h
    next => cases h
  · intro element
    obtain ⟨t, read, left⟩ := value_element (r := []) (by simp [Stops]) (2 * s.length + 1) element
      (by omega)
    rw [List.append_nil] at read
    rw [scan?, read]
    dsimp only
    rw [left]
    rfl

end ContractScan.Json
