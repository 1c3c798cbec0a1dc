import ContractScan.Pattern.Search

/-!
# Matches without regard to the budget

What a search finds is told by what the pattern takes at each place of the text,
`Pattern.spansFrom`. Without a budget all of those matches are found (`Pattern.matchesIn_none`).
With one a beginning of them is found, and all of them unless a search was cut short
(`Pattern.spans_matchesIn_prefix`, `Pattern.spans_matchesIn`).
-/

namespace ContractScan

namespace Pattern

/-- What is handed on by the preferred way to match is a last part of the text. -/
theorem first_suffix (ahead : τ → List Char → Bool) (p : Pattern τ)
    {k : List Char → Option (List Char)} (hk : ∀ r x, k r = some x → x <:+ r)
    (s x : List Char) (h : p.first ahead k s = some x) : x <:+ s := by
  induction p generalizing k s x with
  | empty => exact hk s x h
  | one c =>
    cases s with
    | nil => simp [first] at h
    | cons y r =>
      simp only [first] at h
      split at h
      · exact (hk r x h).trans (List.suffix_cons y r)
      · cases h
  | run pref c =>
    simp only [first] at h
    induction s with
    | nil => exact hk [] x h
    | cons y r ih =>
      have further : (if c.holds y then firstRun pref c k r else none) = some x → x <:+ y :: r := by
        intro e
        split at e
        · exact (ih e).trans (List.suffix_cons y r)
        · cases e
      cases pref with
      | longest =>
        rcases Option.or_eq_some_iff.1 h with e | e
        · exact further e
        · exact hk _ x e.2
      | shortest =>
        rcases Option.or_eq_some_iff.1 h with e | e
        · exact hk _ x e
        · exact further e.2
  | seq p q ihp ihq => exact ihp (fun r x e ↦ ihq hk r x e) s x h
  | alt p q ihp ihq =>
    rcases Option.or_eq_some_iff.1 h with e | e
    · exact ihp hk s x e
    · exact ihq hk s x e.2
  | notAhead l =>
    simp only [first] at h
    split at h
    · cases h
    · exact hk s x h

/-- What is left after a match is a last part of the text. -/
theorem rest?_suffix (p : Pattern Plain) {s rest : List Char} (h : p.rest? s = some rest) :
    rest <:+ s :=
  p.first_suffix Plain.begins (fun _ _ e ↦ by cases e; exact List.suffix_refl _) s rest h

end Pattern

namespace Places

/-- The part of a text between a place and the place of what is left of it later. -/
theorem span_ofList (r s : List Char) {rest : List Char} (h : rest <:+ s) :
    (ofList (r ++ s)).span s.length rest.length =
      ⟨Text.size r, Text.size r + (Text.size s - Text.size rest)⟩ := by
  obtain ⟨taken, rfl⟩ := h
  have stop := offset_ofList (r ++ taken) rest
  rw [List.append_assoc] at stop
  rw [span, offset_ofList, stop]
  simp [Text.size_append]

theorem spansFrom_eq (p : Pattern Plain) (stop? : Nat → Option Nat) (r s : List Char) (skip : Nat)
    (h : ∀ a b, a ++ b = s → stop? b.length = (p.rest? b).map List.length) :
    (ofList (r ++ s)).spansFrom stop? s.length skip = p.spansFrom (Text.size r) skip s := by
  induction s generalizing r skip with
  | nil =>
    have here := h [] [] rfl
    cases skip with
    | succ skip => simp [spansFrom, Pattern.spansFrom]
    | zero =>
      simp only [List.length_nil, spansFrom, Pattern.spansFrom] at here ⊢
      rw [here]
      cases e : p.rest? [] with
      | none => simp
      | some rest =>
        have span := span_ofList r [] (p.rest?_suffix e)
        have nil : rest = [] := List.eq_nil_of_suffix_nil (p.rest?_suffix e)
        simp [nil] at span
        simp [nil, span]
  | cons c s ih =>
    have tail (skip : Nat) : (ofList (r ++ c :: s)).spansFrom stop? s.length skip =
        p.spansFrom (Text.size r + c.utf8Size) skip s := by
      have size : Text.size (r ++ [c]) = Text.size r + c.utf8Size := by
        simp [Text.size_append, Text.size_cons, Text.size_nil]
      rw [← size, ← ih (r ++ [c]) skip fun a b e ↦ h (c :: a) b (by rw [← e]; rfl)]
      simp
    cases skip with
    | succ skip => simpa only [List.length_cons, spansFrom, Pattern.spansFrom] using tail skip
    | zero =>
      have here := h [] (c :: s) rfl
      simp only [List.length_cons, spansFrom, Pattern.spansFrom] at here ⊢
      rw [here]
      cases e : p.rest? (c :: s) with
      | none => simpa using tail 0
      | some rest =>
        have span := span_ofList r (c :: s) (p.rest?_suffix e)
        simp only [List.length_cons] at span
        simp [span, tail]

/-- A search within a budget finds a beginning of the matches, and all of them unless it is cut
short. -/
theorem searchFrom_prefix (p : Pattern Plain) (limit : Budget) (attempt : Nat → Budget → Attempt)
    (r s : List Char) (skip returns : Nat)
    (h : ∀ a b, a ++ b = s → ∀ left,
      (attempt b.length left).Agrees (ofList (r ++ s)) (p.rest? b)) :
    let found := (ofList (r ++ s)).searchFrom limit attempt s.length skip returns
    found.spans <+: p.spansFrom (Text.size r) skip s ∧
      (found.exhausted = false → found.spans = p.spansFrom (Text.size r) skip s) := by
  have choose (a b : List Char) (e : a ++ b = s) (left : Budget) :
      (left.choose (attempt b.length) Budget.fail).Agrees (ofList (r ++ s)) (p.rest? b) := by
    have both := Attempt.agrees_choose (h a b e) Attempt.agrees_fail left
    rwa [Option.or_none] at both
  induction s generalizing r skip returns with
  | nil =>
    have here := choose [] [] rfl ⟨returns, limit.room⟩
    cases skip with
    | succ skip => simp [searchFrom, Pattern.spansFrom, Matches.none]
    | zero =>
      simp only [List.length_nil, searchFrom, Pattern.spansFrom] at here ⊢
      generalize Budget.choose ⟨returns, limit.room⟩ (attempt 0) Budget.fail = outcome at here ⊢
      cases outcome with
      | found m =>
        have suffix := p.rest?_suffix here.2
        have length := length_after (ofList (r ++ [])) m
        rw [List.eq_nil_of_suffix_nil suffix, List.length_nil] at length
        have span := span_ofList r [] (List.suffix_refl [])
        simp at span
        simp [here.2, ← length, span, Matches.cons, Matches.none]
      | failed left =>
        have missed : p.rest? [] = none := here
        simp [missed, Matches.none]
      | spent => simp [Matches.cutShort]
  | cons c s ih =>
    have tail (skip returns : Nat) :
        let found := (ofList (r ++ c :: s)).searchFrom limit attempt s.length skip returns
        found.spans <+: p.spansFrom (Text.size r + c.utf8Size) skip s ∧ (found.exhausted = false →
          found.spans = p.spansFrom (Text.size r + c.utf8Size) skip s) := by
      have size : Text.size (r ++ [c]) = Text.size r + c.utf8Size := by
        simp [Text.size_append, Text.size_cons, Text.size_nil]
      have text : r ++ c :: s = (r ++ [c]) ++ s := by simp
      rw [← size, text]
      rw [text] at h choose
      exact ih (r ++ [c]) skip returns (fun a b e ↦ h (c :: a) b (by rw [← e]; rfl))
        fun a b e ↦ choose (c :: a) b (by rw [← e]; rfl)
    have here := choose [] (c :: s) rfl ⟨returns, limit.room⟩
    cases skip with
    | succ skip =>
      simpa only [List.length_cons, searchFrom, Pattern.spansFrom] using tail skip returns
    | zero =>
      simp only [List.length_cons, searchFrom, Pattern.spansFrom] at here ⊢
      generalize
        Budget.choose ⟨returns, limit.room⟩ (attempt (s.length + 1)) Budget.fail = outcome
        at here ⊢
      cases outcome with
      | found m =>
        have span := span_ofList r (c :: s) (p.rest?_suffix here.2)
        have further := tail (s.length - m) limit.returns
        simp only [length_after, List.length_cons] at span
        simp only [here.2, length_after, span, Matches.cons]
        exact ⟨(List.prefix_cons_inj _).2 further.1, fun e ↦ by rw [further.2 e]⟩
      | failed left =>
        have missed : p.rest? (c :: s) = none := here
        simpa only [missed] using tail 0 left
      | spent => simp [Matches.cutShort]

end Places

namespace Pattern

/-- What is looked ahead for is present at a place if it begins the text there. -/
theorem presence_ofList (s : List Char) (l : Plain) {m : Nat} (h : m ≤ s.length) :
    (l.presence (Places.ofList s)).getD m false = l.begins ((Places.ofList s).after m) :=
  l.getD_presence _ (by rwa [Places.size_ofList])

/-- Without a budget all matches are found. -/
theorem matchesIn_none (p : Pattern Plain) (s : List Char) :
    p.matchesIn none (Places.ofList s) = ⟨p.spansFrom 0 0 s, false⟩ := by
  have size : (Places.ofList s).size = s.length := Places.size_ofList s
  have all : Row.Holds ((Places.ofList s).tabulate some) (Places.ofList s)
      fun rest ↦ some rest.length :=
    ⟨by simp [Places.tabulate], fun m hm ↦ by simp [Row.entry_tabulate _ _ hm, Places.length_after]⟩
  have holds := p.row_holds (k := Thunk.mk fun _ ↦ (Places.ofList s).tabulate some)
    (fun l m hm ↦ presence_ofList s l (by rwa [size] at hm)) all
  simp only [matchesIn, row_map_left, size]
  have spans := Places.spansFrom_eq p
    (p.row (Places.ofList s) (fun l n ↦ (l.presence (Places.ofList s)).getD n false)
      (Thunk.mk fun _ ↦ (Places.ofList s).tabulate some)).entry [] s 0 fun a b e ↦ by
    have after : (Places.ofList s).after b.length = b := by rw [← e, Places.after_ofList]
    rw [holds.2 b.length (by rw [size, ← e, List.length_append]; omega), after]
    exact first_map Plain.begins p some List.length b
  rw [List.nil_append, Text.size_nil] at spans
  exact congrArg (fun spans ↦ (⟨spans, false⟩ : Matches)) spans

/-- Within a budget a beginning of the matches is found, and all of them unless a search is cut
short. -/
theorem matchesIn_some (p : Pattern Plain) (limit : Budget) (s : List Char) :
    let found := p.matchesIn (some limit) (Places.ofList s)
    found.spans <+: p.spansFrom 0 0 s ∧
      (found.exhausted = false → found.spans = p.spansFrom 0 0 s) := by
  have size : (Places.ofList s).size = s.length := Places.size_ofList s
  have search := Places.searchFrom_prefix p limit
    (p.attempt (Places.ofList s) (fun l n ↦ (l.presence (Places.ofList s)).getD n false)
      fun m _ ↦ .found m) [] s 0 limit.returns
  simp only [matchesIn, attempt_map_left, size]
  refine search fun a b e left ↦ ?_
  have after : (Places.ofList s).after b.length = b := by rw [← e, Places.after_ofList]
  have found (m : Nat) (hm : m ≤ b.length) (_ : Budget) :
      (Attempt.found m).Agrees (Places.ofList s) (some ((Places.ofList s).after m)) :=
    ⟨by rw [size, ← e, List.length_append]; omega, rfl⟩
  have agrees : (p.attempt (Places.ofList s)
      (fun l n ↦ (l.presence (Places.ofList s)).getD n false) (fun m _ ↦ .found m) b.length
      left).Agrees (Places.ofList s) (p.rest? ((Places.ofList s).after b.length)) :=
    p.attempt_agrees b.length
      (fun l m hm ↦ presence_ofList s l (by rw [← e, List.length_append]; omega)) found left
  rwa [after] at agrees

/-- A beginning of the matches is found. -/
theorem spans_matchesIn_prefix (p : Pattern Plain) (limit : Option Budget) (s : List Char) :
    (p.matchesIn limit (Places.ofList s)).spans <+: p.spansFrom 0 0 s := by
  cases limit with
  | none => exact ⟨[], by rw [List.append_nil, matchesIn_none]⟩
  | some limit => exact (p.matchesIn_some limit s).1

/-- All matches are found unless a search is cut short. -/
theorem spans_matchesIn (p : Pattern Plain) (limit : Option Budget) (s : List Char)
    (h : (p.matchesIn limit (Places.ofList s)).exhausted = false) :
    (p.matchesIn limit (Places.ofList s)).spans = p.spansFrom 0 0 s := by
  cases limit with
  | none => rw [matchesIn_none]
  | some limit => exact (p.matchesIn_some limit s).2 h

end Pattern

end ContractScan
