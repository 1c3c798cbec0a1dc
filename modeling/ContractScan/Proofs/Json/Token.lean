import ContractScan.Proofs.Json.Grammar
import ContractScan.Proofs.Text.Trim

/-!
# Reading the tokens of JSON text

What the reader takes for white space, for a text (`text_append`, `exists_of_text`) and for a number
(`magnitude_append`, `exists_of_magnitude`) is what the grammar calls so, and it stops where that
ends.
-/

namespace ContractScan.Json

open ContractScan.Json.Parser Grammar

/-! ### White space -/

section White

variable {w s : List Char} {c : Char}

theorem blank_nil : Blank [] := List.forall_mem_nil _

theorem skip_append (blank : Blank w) : skip (w ++ s) = skip s :=
  List.dropWhile_append_of_pos fun c mem ↦ by simpa [Space, or_assoc] using blank c mem

theorem skip_cons (inked : ¬ Space c) : skip (c :: s) = c :: s :=
  List.dropWhile_cons_of_neg (by simpa [Space, or_assoc] using inked)

theorem skip_append_cons (blank : Blank w) (inked : ¬ Space c) : skip (w ++ c :: s) = c :: s := by
  rw [skip_append blank, skip_cons inked]

theorem exists_blank_append_skip (s : List Char) : ∃ w, Blank w ∧ s = w ++ skip s := by
  refine ⟨s.takeWhile fun c ↦ c == ' ' || c == '\n' || c == '\t' || c == '\r', ?_, ?_⟩
  · intro c mem
    simpa [Space, or_assoc] using List.mem_takeWhile_imp mem
  · exact List.takeWhile_append_dropWhile.symm

theorem skip_skip (s : List Char) : skip (skip s) = skip s := by
  obtain ⟨w, blank, cut⟩ := exists_blank_append_skip s
  rw [← skip_append (s := skip s) blank, ← cut]

end White

/-! ### Texts -/

/-- The pieces of a text, and what stands for them between quotes. -/
inductive Pieced : List Piece → List Char → Prop
  | nil : Pieced [] []
  | plain {c : Char} {ps : List Piece} {s : List Char} (printed : 0x20 ≤ c.toNat) (mark : c ≠ '"')
      (escape : c ≠ '\\') (rest : Pieced ps s) : Pieced (.scalar c :: ps) (c :: s)
  | short {c e : Char} {ps : List Piece} {s : List Char} (letter : shortEscape? e = some c)
      (rest : Pieced ps s) : Pieced (.scalar c :: ps) ('\\' :: e :: s)
  | unit {c a₁ a₂ a₃ a₄ : Char} {ps : List Piece} {s : List Char}
      (unit : unit? a₁ a₂ a₃ a₄ = some c.toNat) (rest : Pieced ps s) :
      Pieced (.scalar c :: ps) ('\\' :: 'u' :: a₁ :: a₂ :: a₃ :: a₄ :: s)
  | half {u : Nat} {a₁ a₂ a₃ a₄ : Char} {ps : List Piece} {s : List Char}
      (unit : unit? a₁ a₂ a₃ a₄ = some u) (le : 0xd800 ≤ u) (lt : u < 0xe000)
      (rest : Pieced ps s) : Pieced (.half u :: ps) ('\\' :: 'u' :: a₁ :: a₂ :: a₃ :: a₄ :: s)

/-- The characters of the pieces, which come first one first. -/
def united : List Piece → Option (List Char)
  | [] => some []
  | .scalar c :: ps => (united ps).map (c :: ·)
  | .half high :: .half low :: ps =>
    if high < 0xdc00 ∧ 0xdc00 ≤ low then
      (united ps).map (Char.ofNat (0x10000 + (high - 0xd800) * 0x400 + (low - 0xdc00)) :: ·)
    else none
  | .half _ :: _ => none

section Texts

variable {s r acc cs : List Char} {ps qs read : List Piece}

theorem unit?_lt {a b c d : Char} {u : Nat} (h : unit? a b c d = some u) : u < 0x10000 := by
  have digit_lt (c : Char) : Text.digitValue 16 c < 16 := by
    rw [Text.digitValue, Text.digit?]
    cases found : (Text.hexDigit? c).filter fun d ↦ decide (d < 16) with
    | none => exact Nat.zero_lt_succ _
    | some d => simpa using (Option.filter_eq_some_iff.mp found).2
  rw [unit?, Text.numeral?] at h
  split at h
  · cases h
  · cases h
    rw [Text.numeral_eq_foldl]
    simp only [List.foldl_cons, List.foldl_nil]
    have := digit_lt a
    have := digit_lt b
    have := digit_lt c
    have := digit_lt d
    omega

theorem ofUnit_toNat (c : Char) : Piece.ofUnit c.toNat = .scalar c := by
  rw [Piece.ofUnit, if_neg, Char.ofNat_toNat]
  have := c.valid
  simp only [UInt32.isValidChar, Nat.isValidChar, Char.toNat] at *
  omega

theorem pieces_append (pieced : Pieced ps s) (acc : List Piece) :
    pieces acc (s ++ '"' :: r) = some (ps.reverse ++ acc, r) := by
  induction pieced generalizing acc with
  | nil => rfl
  | @plain c ps s printed mark escape rest ih =>
    have next : pieces acc (c :: (s ++ '"' :: r)) = pieces (.scalar c :: acc) (s ++ '"' :: r) := by
      rw [pieces]
      · simp [escape, Nat.not_lt.mpr printed]
      all_goals simp [mark, escape]
    rw [List.cons_append, next, ih, List.reverse_cons, List.append_assoc, List.singleton_append]
  | @short c e ps s letter rest ih =>
    have next : pieces acc ('\\' :: e :: (s ++ '"' :: r)) =
        pieces (.scalar c :: acc) (s ++ '"' :: r) := by
      rw [pieces, letter]
      rintro a b c d s rfl
      cases letter
    rw [List.cons_append, List.cons_append, next, ih, List.reverse_cons, List.append_assoc,
      List.singleton_append]
  | unit unit rest ih =>
    simp only [List.cons_append, pieces, unit, ofUnit_toNat, ih, List.reverse_cons,
      List.append_assoc, List.nil_append]
  | half unit le lt rest ih =>
    have surrogate : 0xd800 ≤ _ ∧ _ ≤ 0xdfff := ⟨le, Nat.le_of_lt_succ lt⟩
    simp only [List.cons_append, pieces, unit, Piece.ofUnit, if_pos surrogate, ih,
      List.reverse_cons, List.append_assoc, List.nil_append]

/-- An escape of four digits is one piece, a character or a half of one. -/
theorem pieced_ofUnit {a b c d : Char} {u : Nat} (unit : unit? a b c d = some u)
    (rest : Pieced ps s) : Pieced (.ofUnit u :: ps) ('\\' :: 'u' :: a :: b :: c :: d :: s) := by
  have lt := unit?_lt unit
  rw [Piece.ofUnit]
  split
  next surrogate => exact .half unit surrogate.1 (by omega) rest
  next scalar =>
    refine .unit ?_ rest
    rw [unit, Text.toNat_ofNat]
    simp only [Nat.isValidChar]
    omega

theorem exists_of_pieces (h : pieces read s = some (ps, r)) :
    ∃ qs t, Pieced qs t ∧ ps = qs.reverse ++ read ∧ s = t ++ '"' :: r := by
  fun_induction pieces read s with
  | case1 acc s =>
    cases h
    exact ⟨[], [], .nil, rfl, rfl⟩
  | case2 acc a b c d s u unit ih =>
    obtain ⟨qs, t, pieced, rfl, rfl⟩ := ih h
    exact ⟨_, _, pieced_ofUnit unit pieced, by simp, rfl⟩
  | case3 => cases h
  | case4 acc e s _ c letter ih =>
    obtain ⟨qs, t, pieced, rfl, rfl⟩ := ih h
    exact ⟨_, _, .short letter pieced, by simp, rfl⟩
  | case5 => cases h
  | case6 => cases h
  | case7 acc c s mark _ _ kept ih =>
    obtain ⟨qs, t, pieced, rfl, rfl⟩ := ih h
    simp only [Bool.or_eq_true, decide_eq_true_eq, beq_iff_eq, not_or] at kept
    exact ⟨_, _, .plain (Nat.le_of_not_lt kept.1) mark kept.2 pieced, by simp, rfl⟩
  | case8 => cases h

/-- Pieces are joined apart from each other where the later row does not begin with a half. -/
theorem joined_append (apart : ∀ u, qs.head? ≠ some (.half u)) :
    joined acc (ps ++ qs) = (joined acc ps).bind fun cs ↦ joined cs qs := by
  fun_induction joined acc ps with
  | case1 => rfl
  | case2 acc c ps ih => exact ih
  | case3 acc low high ps pair ih =>
    rw [List.cons_append, List.cons_append, joined, if_pos pair, ih]
  | case4 acc low high ps pair =>
    rw [List.cons_append, List.cons_append, joined, if_neg pair]
    rfl
  | case5 acc u ps alone =>
    rw [List.cons_append, joined]
    · rfl
    · intro high rest more
      match ps, more with
      | [], more => exact apart high (by rw [← List.nil_append qs, more]; rfl)
      | .half high :: ps, _ => exact alone high ps rfl

/-- Two halves at the end of the row are joined to each other or to nothing. -/
theorem joined_append_halves (low high : Nat) :
    joined acc (ps ++ [.half low, .half high]) =
      if high < 0xdc00 ∧ 0xdc00 ≤ low then
        (joined acc ps).map
          (Char.ofNat (0x10000 + (high - 0xd800) * 0x400 + (low - 0xdc00)) :: ·)
      else none := by
  fun_induction joined acc ps with
  | case1 => simp [joined]
  | case2 acc c ps ih => exact ih
  | case3 acc low' high' ps pair ih =>
    rw [List.cons_append, List.cons_append, joined, if_pos pair, ih]
  | case4 acc low' high' ps pair =>
    rw [List.cons_append, List.cons_append, joined, if_neg pair]
    simp
  | case5 acc u ps alone =>
    match ps with
    | [] => simp [joined]
    | .scalar c :: ps => simp [joined]
    | .half high' :: ps => exact absurd rfl (alone high' ps)

theorem joined_reverse (ps : List Piece) :
    joined acc ps.reverse = (united ps).map (· ++ acc) := by
  fun_induction united ps with
  | case1 => rfl
  | case2 c ps ih =>
    rw [List.reverse_cons, joined_append (by simp), ih]
    cases united ps <;> rfl
  | case3 high low ps pair ih =>
    rw [List.reverse_cons, List.reverse_cons, List.append_assoc, List.singleton_append,
      joined_append_halves, if_pos pair, ih]
    cases united ps <;> rfl
  | case4 high low ps pair =>
    rw [List.reverse_cons, List.reverse_cons, List.append_assoc, List.singleton_append,
      joined_append_halves, if_neg pair]
    rfl
  | case5 u ps alone =>
    match ps with
    | [] => rfl
    | .scalar c :: ps =>
      rw [List.reverse_cons, List.reverse_cons, List.append_assoc, List.singleton_append,
        joined_append (by simp)]
      cases joined acc ps.reverse <;> rfl
    | .half low :: ps => exact absurd rfl (alone low ps)

theorem exists_pieced_of_quoted (quoted : Quoted cs s) :
    ∃ ps, Pieced ps s ∧ united ps = some cs := by
  induction quoted with
  | nil => exact ⟨[], .nil, rfl⟩
  | plain printed mark escape rest ih =>
    obtain ⟨ps, pieced, eq⟩ := ih
    exact ⟨_, .plain printed mark escape pieced, by rw [united, eq]; rfl⟩
  | short letter rest ih =>
    obtain ⟨ps, pieced, eq⟩ := ih
    exact ⟨_, .short letter pieced, by rw [united, eq]; rfl⟩
  | unit unit rest ih =>
    obtain ⟨ps, pieced, eq⟩ := ih
    exact ⟨_, .unit unit pieced, by rw [united, eq]; rfl⟩
  | @pair c _ _ _ _ _ _ _ _ high low cs s upper high_lt lower low_lt both rest ih =>
    obtain ⟨ps, pieced, eq⟩ := ih
    refine ⟨_, .half upper (by omega) (by omega) (.half lower (by omega) (by omega) pieced), ?_⟩
    have code : 0x10000 + (0xd800 + high - 0xd800) * 0x400 + (0xdc00 + low - 0xdc00) = c.toNat := by
      rw [Nat.add_sub_cancel_left, Nat.add_sub_cancel_left, both]
    rw [united, if_pos (by omega), eq, code, Char.ofNat_toNat]
    rfl

theorem quoted_of_pieced (pieced : Pieced ps s) (eq : united ps = some cs) : Quoted cs s := by
  fun_induction united ps generalizing s cs with
  | case1 =>
    cases eq
    cases pieced
    exact .nil
  | case2 c ps ih =>
    obtain ⟨cs, same, rfl⟩ := Option.map_eq_some_iff.mp eq
    cases pieced with
    | plain printed mark escape rest => exact .plain printed mark escape (ih rest same)
    | short letter rest => exact .short letter (ih rest same)
    | unit unit rest => exact .unit unit (ih rest same)
  | case3 high low ps pair ih =>
    obtain ⟨cs, same, rfl⟩ := Option.map_eq_some_iff.mp eq
    cases pieced with
    | half upper high_le _ pieced =>
      cases pieced with
      | half lower _ low_lt rest =>
        obtain ⟨high, rfl⟩ := Nat.exists_eq_add_of_le high_le
        obtain ⟨low, rfl⟩ := Nat.exists_eq_add_of_le pair.2
        refine .pair upper (by omega) lower (by omega) ?_ (ih rest same)
        rw [Nat.add_sub_cancel_left, Nat.add_sub_cancel_left, Text.toNat_ofNat]
        simp only [Nat.isValidChar]
        omega
  | case4 => cases eq
  | case5 => cases eq

/-- The reader takes in a text up to its closing quote. -/
theorem text_append {t : String} (quoted : Quoted t.toList s) :
    Parser.text (s ++ '"' :: r) = some (some t, r) := by
  obtain ⟨ps, pieced, eq⟩ := exists_pieced_of_quoted quoted
  simp [Parser.text, pieces_append pieced, joined_reverse, eq]

theorem exists_of_text {t : String} (h : Parser.text s = some (some t, r)) :
    ∃ q, Quoted t.toList q ∧ s = q ++ '"' :: r := by
  obtain ⟨⟨ps, r'⟩, found, same⟩ := Option.map_eq_some_iff.mp h
  obtain ⟨qs, q, pieced, rfl, rfl⟩ := exists_of_pieces found
  simp only [List.append_nil, joined_reverse, Prod.mk.injEq, Option.map_eq_some_iff] at same
  obtain ⟨⟨cs, ⟨cs', eq, rfl⟩, rfl⟩, rfl⟩ := same
  refine ⟨q, quoted_of_pieced pieced ?_, rfl⟩
  simpa using eq

/-- A character that stands for itself between quotes. -/
def isPlain (c : Char) : Bool := decide (0x20 ≤ c.toNat) && c != '"' && c != '\\'

theorem quoted_of_isPlain (plain : s.all isPlain = true) : Quoted s s := by
  induction s with
  | nil => exact .nil
  | cons c s ih =>
    rw [List.all_cons, Bool.and_eq_true] at plain
    obtain ⟨⟨printed, mark⟩, escape⟩ : (0x20 ≤ c.toNat ∧ c ≠ '"') ∧ c ≠ '\\' := by
      simpa [isPlain] using plain.1
    exact .plain printed mark escape (ih plain.2)

end Texts

/-! ### Numbers -/

/-- No number that ends here can go on. -/
def Stops (r : List Char) : Prop :=
  ∀ c ∈ r.head?, c.isDigit = false ∧ c ≠ '.' ∧ c ≠ 'e' ∧ c ≠ 'E'

section Numbers

variable {s r ds fs f x : List Char} {e : Int} {scaled : Bool}

theorem digits_append (row : Grammar.Digits ds) (stop : ∀ c ∈ r.head?, c.isDigit = false) :
    digits (ds ++ r) = some (ds, r) := by
  rw [digits, Text.span_append row.all stop]
  cases ds with
  | nil => exact absurd rfl row.ne
  | cons d ds => rfl

theorem digits_of_digits (h : digits s = some (ds, r)) : Grammar.Digits ds ∧ s = ds ++ r := by
  rw [digits, List.span_eq_takeWhile_dropWhile] at h
  split at h
  · cases h
  next ne cut =>
    cases h
    obtain ⟨rfl, rfl⟩ := Prod.mk.inj cut
    exact ⟨⟨ne, fun c mem ↦ List.mem_takeWhile_imp mem⟩, List.takeWhile_append_dropWhile.symm⟩

theorem whole_append (row : Whole ds) (stop : ∀ c ∈ r.head?, c.isDigit = false) :
    whole (ds ++ r) = some (ds, r) := by
  rw [whole, digits_append row.toDigits stop]
  split
  next d rest r' eq =>
    obtain ⟨rfl, rfl⟩ := Prod.mk.inj (Option.some.inj eq)
    cases row.alone _ rfl
  next => rfl

theorem whole_of_whole (h : whole s = some (ds, r)) : Whole ds ∧ s = ds ++ r := by
  rw [whole] at h
  split at h
  · cases h
  next other =>
    obtain ⟨row, cut⟩ := digits_of_digits h
    refine ⟨⟨row, ?_⟩, cut⟩
    rintro (_ | ⟨d, rest⟩) rfl
    · rfl
    · exact absurd h (other d rest r)

theorem fraction_append (part : Fraction fs f) (stop : ∀ c ∈ r.head?, c.isDigit = false)
    (point : ∀ c ∈ r.head?, c ≠ '.') : fraction (f ++ r) = some (fs, r) := by
  cases part with
  | none =>
    rw [List.nil_append, fraction]
    rintro s rfl
    exact point '.' rfl rfl
  | some row => exact digits_append row stop

theorem fraction_of_fraction (h : fraction s = some (fs, r)) :
    ∃ f, Fraction fs f ∧ s = f ++ r := by
  rw [fraction.eq_def] at h
  split at h
  next s =>
    obtain ⟨row, rfl⟩ := digits_of_digits h
    exact ⟨_, .some row, rfl⟩
  next =>
    cases h
    exact ⟨[], .none, rfl⟩

theorem append_ne_cons {c : Char} (row : Grammar.Digits ds) (other : c.isDigit = false)
    (s : List Char) : ds ++ r ≠ c :: s := by
  intro eq
  cases ds with
  | nil => exact row.ne rfl
  | cons d ds =>
    cases eq
    exact Bool.false_ne_true (other.symm.trans (row.all c (.head ds)))

theorem exponent_append (part : Exponent e scaled x) (stop : Stops r) :
    exponent (x ++ r) = some (e, scaled, r) := by
  have row_stop : ∀ c ∈ r.head?, c.isDigit = false := fun c mem ↦ (stop c mem).1
  cases part with
  | none =>
    cases r with
    | nil => rfl
    | cons c r =>
      obtain ⟨-, -, lower, upper⟩ := stop c rfl
      rw [List.nil_append, exponent.eq_def]
      exact if_neg (by simp [lower, upper])
  | bare mark row =>
    rw [List.cons_append, exponent, if_pos (by simpa using mark), digits_append row row_stop]
    · rfl
    · exact append_ne_cons row (by decide)
    · exact append_ne_cons row (by decide)
  | plus mark row =>
    rw [List.cons_append, List.cons_append, exponent, if_pos (by simpa using mark),
      digits_append row row_stop]
    rfl
  | minus mark row =>
    rw [List.cons_append, List.cons_append, exponent, if_pos (by simpa using mark),
      digits_append row row_stop]
    rfl

theorem exponent_of_exponent (h : exponent s = some (e, scaled, r)) :
    ∃ x, Exponent e scaled x ∧ s = x ++ r := by
  rw [exponent.eq_def] at h
  split at h
  next c s =>
    split at h
    next mark =>
      have mark : c = 'e' ∨ c = 'E' := by simpa using mark
      split at h
      all_goals
        obtain ⟨⟨ds, r⟩, found, same⟩ := Option.map_eq_some_iff.mp h
        obtain ⟨row, rfl⟩ := digits_of_digits found
        cases same
      · exact ⟨_, .minus mark row, rfl⟩
      · exact ⟨_, .plus mark row, rfl⟩
      · exact ⟨_, .bare mark row, rfl⟩
    next =>
      cases h
      exact ⟨[], .none, rfl⟩
  next =>
    cases h
    exact ⟨[], .none, rfl⟩

theorem isDigit_head_fraction (part : Fraction fs f) (stop : ∀ c ∈ r.head?, c.isDigit = false) :
    ∀ c ∈ (f ++ r).head?, c.isDigit = false := by
  cases part with
  | none => exact stop
  | some row => simp

theorem head_exponent (part : Exponent e scaled x) (stop : Stops r) :
    ∀ c ∈ (x ++ r).head?, c.isDigit = false ∧ c ≠ '.' := by
  have of_mark {c : Char} (mark : c = 'e' ∨ c = 'E') : c.isDigit = false ∧ c ≠ '.' := by
    rcases mark with rfl | rfl <;> decide
  cases part with
  | none => exact fun c mem ↦ ⟨(stop c mem).1, (stop c mem).2.1⟩
  | bare mark row => simpa using of_mark mark
  | plus mark row => simpa using of_mark mark
  | minus mark row => simpa using of_mark mark

/-- The reader takes in a number as far as it goes. -/
theorem magnitude_append {negative : Bool} {n : Number} (number : Magnitude negative n s)
    (stop : Stops r) : magnitude negative (s ++ r) = some (.number n, r) := by
  obtain ⟨row, part, power, bounds⟩ := number
  have stop_power := head_exponent power stop
  have stop_part := isDigit_head_fraction part fun c mem ↦ (stop_power c mem).1
  rw [magnitude, List.append_assoc, List.append_assoc, whole_append row stop_part]
  simp only [Option.bind_eq_bind, Option.bind_some]
  rw [fraction_append part (fun c mem ↦ (stop_power c mem).1) fun c mem ↦ (stop_power c mem).2]
  simp only [Option.bind_some]
  rw [exponent_append power stop]
  simp [bounds]

theorem exists_of_magnitude {negative : Bool} {j : Json} (h : magnitude negative s = some (j, r))
    (readable : j.readable = true) :
    ∃ n t, j = .number n ∧ Magnitude negative n t ∧ s = t ++ r := by
  rw [magnitude] at h
  obtain ⟨⟨ws, s₁⟩, foundWhole, afterWhole⟩ := Option.bind_eq_some_iff.mp h
  obtain ⟨⟨fs, s₂⟩, foundPart, afterPart⟩ := Option.bind_eq_some_iff.mp afterWhole
  obtain ⟨⟨e, scaled, s₃⟩, foundPower, atEnd⟩ := Option.bind_eq_some_iff.mp afterPart
  obtain ⟨row, rfl⟩ := whole_of_whole foundWhole
  obtain ⟨f, part, rfl⟩ := fraction_of_fraction foundPart
  obtain ⟨x, power, rfl⟩ := exponent_of_exponent foundPower
  dsimp only at atEnd
  cases bounds : inBounds ws fs e with
  | true =>
    rw [if_pos bounds] at atEnd
    cases atEnd
    exact ⟨_, _, rfl, .intro row part power bounds, by simp⟩
  | false =>
    rw [if_neg (by simp [bounds])] at atEnd
    cases atEnd
    cases readable

end Numbers

end ContractScan.Json
