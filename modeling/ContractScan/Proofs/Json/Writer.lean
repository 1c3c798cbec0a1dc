import ContractScan.Json.Printer
import ContractScan.Proofs.Json.Settle

/-!
# What is written is read back

The text that a value is written as stands for it by the grammar, on one line (`value_render`) and
on several (`value_pretty`), where all its numbers are words: natural numbers of 64 bits. So either
text is read as the value that was written (`scan?_render`, `scan?_pretty`).
-/

namespace ContractScan

/-! ### Digits -/

namespace Text

variable {n : Nat} {c : Char}

theorem digitValue_of_isDigit (digit : c.isDigit = true) :
    digitValue 10 c = c.toNat - '0'.toNat :=
  forall_alphanum (P := fun c ↦ c.isDigit = true → digitValue 10 c = c.toNat - '0'.toNat)
    (by decide) (by rw [Char.isAlphanum, digit, Bool.or_true]) digit

/-- The digits of a number are read as it. -/
theorem numeral_toDigits (n : Nat) : numeral 10 (Nat.toDigits 10 n) = n := by
  have digits : ∀ c ∈ Nat.toDigits 10 n, c.isDigit = true := fun c mem ↦
    Nat.isDigit_of_mem_toDigits (by decide) (by decide) mem
  calc numeral 10 (Nat.toDigits 10 n)
    _ = (Nat.toDigits 10 n).foldl (fun m c ↦ m * 10 + digitValue 10 c) 0 := numeral_eq_foldl _ _
    _ = Nat.ofDigitChars 10 (Nat.toDigits 10 n) 0 := by
      rw [Nat.ofDigitChars_eq_foldl]
      apply List.foldl_ext
      intro m c mem
      rw [digitValue_of_isDigit (digits c mem), Nat.mul_comm]
    _ = n := Nat.ofDigitChars_ten_toDigits

end Text

namespace Json

open Grammar

section Numbers

variable {n m : Nat} {ds : List Char}

theorem head?_toDigits_ne_zero (pos : 0 < n) : (Nat.toDigits 10 n).head? ≠ some '0' := by
  induction n using Nat.strongRecOn with
  | ind n ih =>
    rcases Nat.lt_or_ge n 10 with lt | ge
    · rw [Nat.toDigits_of_lt_base lt]
      simp [Nat.ne_of_gt pos]
    · rw [Nat.toDigits_of_base_le (by decide) ge, List.head?_append_of_ne_nil _ Nat.toDigits_ne_nil]
      exact ih (n / 10) (by omega) (by omega)

/-- The digits of a number are its whole part. -/
theorem whole_toDigits (n : Nat) : Whole (Nat.toDigits 10 n) where
  ne := Nat.toDigits_ne_nil
  all c mem := Nat.isDigit_of_mem_toDigits (by decide) (by decide) mem
  alone rest eq := by
    rcases Nat.eq_zero_or_pos n with rfl | pos
    · rw [Nat.toDigits_zero] at eq
      exact (List.cons.inj eq).2.symm
    · exact absurd (by rw [eq]; rfl) (head?_toDigits_ne_zero pos)

/-- The number with further digits behind its own. -/
def extended (m : Nat) (ds : List Char) : Nat :=
  ds.foldl (fun m c ↦ m * 10 + Text.digitValue 10 c) m

theorem le_extended (m : Nat) (ds : List Char) : m ≤ extended m ds := by
  induction ds generalizing m with
  | nil => exact Nat.le_refl m
  | cons d ds ih => exact Nat.le_trans (by omega) (ih (m * 10 + Text.digitValue 10 d))

theorem extended_toDigits (n : Nat) : extended 0 (Nat.toDigits 10 n) = n :=
  (Text.numeral_eq_foldl 10 _).symm.trans (Text.numeral_toDigits n)

/-- Digits are all taken in as long as the number fits. -/
theorem absorb_of_lt (fits : extended m ds < UInt64.size) : absorb m ds = (extended m ds, []) := by
  induction ds generalizing m with
  | nil => rfl
  | cons d ds ih =>
    have next : m * 10 + Text.digitValue 10 d < UInt64.size :=
      Nat.lt_of_le_of_lt (le_extended _ ds) fits
    rw [absorb, if_pos next, ih fits]
    rfl

/-- Rounding a number adds at most what it is. -/
theorem rounded_le (pos : n ≠ 0) : rounded n ≤ 2 * n := by
  have unit_le : 1 <<< (n.log2 + 1 - 53) ≤ n := by
    rw [Nat.one_shiftLeft]
    calc 2 ^ (n.log2 + 1 - 53)
      _ ≤ 2 ^ n.log2 := Nat.pow_le_pow_right (by decide) (by omega)
      _ ≤ n := Nat.log2_self_le pos
  have front_le := Nat.div_mul_le_self n (1 <<< (n.log2 + 1 - 53))
  rw [rounded]
  split
  · rw [Nat.succ_mul]
    omega
  · omega

theorem inBounds_toDigits (word : n < UInt64.size) : inBounds (Nat.toDigits 10 n) [] 0 = true := by
  -- All digits of a word are taken in, so that no power of ten is left to multiply by.
  have taken : absorb 0 (Nat.toDigits 10 n) = (n, []) := by
    rw [absorb_of_lt (by rwa [extended_toDigits]), extended_toDigits]
  have below (pos : n ≠ 0) : rounded n * rounded 1 < Number.tooLarge :=
    calc rounded n * rounded 1
      _ ≤ 2 * n * 1 := Nat.mul_le_mul (rounded_le pos) (by decide)
      _ ≤ 2 * UInt64.size := by omega
      _ < Number.tooLarge := by decide
  rw [inBounds, taken]
  by_cases pos : n = 0
  · simp [absorb, pos]
  · simpa [absorb, maxScale] using Or.inr (below pos)

/-- A word is written in its digits. -/
theorem magnitude_toDigits (word : n < UInt64.size) :
    Magnitude false { mantissa := n } (Nat.toDigits 10 n) := by
  have magnitude : Magnitude false _ _ :=
    .intro (whole_toDigits n) .none .none (inBounds_toDigits word)
  simpa [Text.numeral_toDigits] using magnitude

end Numbers

/-! ### Texts -/

theorem unit?_hexByte : ∀ n < 0x20,
    Parser.unit? '0' '0' (Text.hexDigit (n / 16 % 16)) (Text.hexDigit (n % 16)) = some n := by
  decide

/-- What is written for a character inside quotes stands for it. -/
theorem quoted_escape_append (c : Char) {cs s : List Char} (rest : Quoted cs s) :
    Quoted (c :: cs) (escape c ++ s) := by
  rw [escape]
  -- The characters with a letter of their own, then the other control characters.
  iterate 7
    split
    next eq =>
      subst eq
      exact .short rfl rest
  split
  next control => exact .unit (unit?_hexByte c.toNat control) rest
  next mark escape _ _ _ _ _ printed => exact .plain (Nat.le_of_not_lt printed) mark escape rest

theorem quoted_flatMap_escape (cs : List Char) : Quoted cs (cs.flatMap escape) := by
  induction cs with
  | nil => exact .nil
  | cons c cs ih => exact quoted_escape_append c ih

/-! ### Values -/

mutual

/-- All numbers in the value are words, and no part of it is unreadable. -/
def worded : Json → Bool
  | .number n => decide (n = { mantissa := n.mantissa } ∧ n.mantissa < UInt64.size)
  | .array xs => wordedItems xs
  | .object ms => wordedMembers ms
  | .unreadable => false
  | _ => true

/-- All numbers in the items are words, and no part of them is unreadable. -/
def wordedItems : List Json → Bool
  | [] => true
  | x :: xs => worded x && wordedItems xs

/-- All numbers in the members are words, and no part of them is unreadable. -/
def wordedMembers : List (String × Json) → Bool
  | [] => true
  | (_, x) :: ms => worded x && wordedMembers ms

end

theorem wordedItems_eq_all (xs : List Json) : wordedItems xs = xs.all worded := by
  induction xs with
  | nil => rfl
  | cons x xs ih => rw [wordedItems, ih, List.all_cons]

theorem wordedMembers_eq_all (ms : List (String × Json)) :
    wordedMembers ms = ms.all fun m ↦ m.2.worded := by
  induction ms with
  | nil => rfl
  | cons m ms ih => rw [wordedMembers, ih, List.all_cons]

theorem worded_nat {n : Nat} (word : n < UInt64.size) : worded (nat n) = true :=
  decide_eq_true ⟨rfl, word⟩

@[simp] theorem worded_text (t : String) : worded (.text t) = true := rfl

@[simp] theorem worded_optText (t : Option String) : worded (optText t) = true := by
  cases t <;> rfl

theorem worded_optNat {n : Option Nat} (word : ∀ k ∈ n, k < UInt64.size) :
    worded (optNat n) = true := by
  cases n with
  | none => rfl
  | some n => exact worded_nat (word n rfl)

theorem value_number {n : Number} (word : worded (.number n) = true) :
    Value (.number n) n.render := by
  obtain ⟨eq, lt⟩ := of_decide_eq_true word
  rw [eq]
  refine .number ?_
  simpa [Number.render] using magnitude_toDigits lt

theorem value_text (t : String) : Value (.text t) (quote t) :=
  .text (quoted_flatMap_escape t.toList)

theorem element_of_value {j : Json} {s : List Char} (value : Value j s) : Element j s := by
  simpa using Element.intro blank_nil value blank_nil

theorem member_quote (name : String) {x : Json} {w s : List Char} (before : Blank w)
    (value : Element x s) : Member (name, x) (w ++ quote name ++ ':' :: s) := by
  simpa [quote] using Member.intro before (quoted_flatMap_escape name.toList) blank_nil value

mutual

/-- What is written on one line for a value stands for it. -/
theorem value_render : (j : Json) → j.worded = true → Value j j.render
  | .null, _ => .null
  | .bool true, _ => .yes
  | .bool false, _ => .no
  | .number _, word => value_number word
  | .text t, _ => value_text t
  | .array [], _ => .noItems blank_nil
  | .array (x :: xs), words => .array (elements_renderItems (x :: xs) (List.cons_ne_nil x xs) words)
  | .object [], _ => .noMembers blank_nil
  | .object (m :: ms), words =>
    .object (members_renderMembers (m :: ms) (List.cons_ne_nil m ms) words)

theorem elements_renderItems : (xs : List Json) → xs ≠ [] → wordedItems xs = true →
    Elements xs (renderItems xs)
  | [], ne, _ => absurd rfl ne
  | [x], _, words =>
    have words := Bool.and_eq_true_iff.mp words
    .last (element_of_value (value_render x words.1))
  | x :: y :: ys, _, words =>
    have words := Bool.and_eq_true_iff.mp words
    .next (element_of_value (value_render x words.1))
      (elements_renderItems (y :: ys) (List.cons_ne_nil y ys) words.2)

theorem members_renderMembers : (ms : List (String × Json)) → ms ≠ [] → wordedMembers ms = true →
    Members ms (renderMembers ms)
  | [], ne, _ => absurd rfl ne
  | [(name, x)], _, words =>
    have words := Bool.and_eq_true_iff.mp words
    .last (member_quote name blank_nil (element_of_value (value_render x words.1)))
  | (name, x) :: m :: ms, _, words => by
    have words := Bool.and_eq_true_iff.mp words
    have member := member_quote name blank_nil (element_of_value (value_render x words.1))
    have rest := members_renderMembers (m :: ms) (List.cons_ne_nil m ms) words.2
    simpa [renderMembers] using Members.next member rest

end

theorem blank_newline (level : Nat) : Blank (newline level) := by
  simp [Blank, Space, newline]

theorem blank_space : Blank [' '] := by
  simp [Blank, Space]

mutual

/-- What is written on several lines for a value stands for it. -/
theorem value_pretty : (j : Json) → j.worded = true → (level : Nat) → Value j (j.pretty level)
  | .null, _, _ => .null
  | .bool true, _, _ => .yes
  | .bool false, _, _ => .no
  | .number _, word, _ => value_number word
  | .text t, _, _ => value_text t
  | .array [], _, _ => .noItems blank_nil
  | .array (x :: xs), words, level =>
    .array (elements_prettyItems (x :: xs) (List.cons_ne_nil x xs) words _ (blank_newline level))
  | .object [], _, _ => .noMembers blank_nil
  | .object (m :: ms), words, level =>
    .object (members_prettyMembers (m :: ms) (List.cons_ne_nil m ms) words _ (blank_newline level))

/-- The white space in front of the closing bracket belongs to the last item. -/
theorem elements_prettyItems {w : List Char} : (xs : List Json) → xs ≠ [] →
    wordedItems xs = true → (level : Nat) → Blank w → Elements xs (prettyItems level xs ++ w)
  | [], ne, _, _, _ => absurd rfl ne
  | [x], _, words, level, after =>
    have words := Bool.and_eq_true_iff.mp words
    .last (.intro (blank_newline level) (value_pretty x words.1 level) after)
  | x :: y :: ys, _, words, level, after => by
    have words := Bool.and_eq_true_iff.mp words
    have item := Element.intro (blank_newline level) (value_pretty x words.1 level) blank_nil
    have rest := elements_prettyItems (y :: ys) (List.cons_ne_nil y ys) words.2 level after
    simpa [prettyItems] using Elements.next item rest

theorem members_prettyMembers {w : List Char} : (ms : List (String × Json)) → ms ≠ [] →
    wordedMembers ms = true → (level : Nat) → Blank w → Members ms (prettyMembers level ms ++ w)
  | [], ne, _, _, _ => absurd rfl ne
  | [(name, x)], _, words, level, after => by
    have words := Bool.and_eq_true_iff.mp words
    have value := Element.intro blank_space (value_pretty x words.1 level) after
    have member := member_quote name (blank_newline level) value
    simpa [prettyMembers] using Members.last member
  | (name, x) :: m :: ms, _, words, level, after => by
    have words := Bool.and_eq_true_iff.mp words
    have value := Element.intro blank_space (value_pretty x words.1 level) blank_nil
    have member := member_quote name (blank_newline level) value
    have rest := members_prettyMembers (m :: ms) (List.cons_ne_nil m ms) words.2 level after
    simpa [prettyMembers] using Members.next member rest

end

section Read

variable {j : Json}

theorem scan?_render (words : j.worded = true) : scan? j.render = some j :=
  have element := element_of_value (value_render j words)
  (scan?_eq_some_iff (readable_of_element element)).mpr element

theorem scan?_pretty (words : j.worded = true) (level : Nat) : scan? (j.pretty level) = some j :=
  have element := element_of_value (value_pretty j words level)
  (scan?_eq_some_iff (readable_of_element element)).mpr element

end Read

end Json

end ContractScan
