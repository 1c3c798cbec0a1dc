import ContractScan.Finding.Scan
import ContractScan.Proofs.Pattern.LeftToRight
import ContractScan.Proofs.Pattern.Ways
import Mathlib.Data.Bool.AllAny

/-!
# Keys of accounts that do not sign

What the rule on missing signers finds on one line, said without its pattern: the accounts behind
which the line does not ask for a signature, each up to the last `.key` of the line
(`UnsignedKey`, `spans_missingSignerCheck_iff`). The rule also looks ahead for a comparison with the
signer's key. But it prefers the last `.key`, and such a comparison has a `.key` of its own, so on
one line that condition never holds where it is asked. A key that is compared with the signer's is
reported all the same, together with the comparison (`spans_signerComparison`).
-/

namespace ContractScan.Rule.Solana

open Pattern
open Text (Spells SpellsAny Contains)

/-- The words for the accounts of an instruction and for those of its context. -/
def accountWords : List String := ["instruction.accounts.", "ctx.accounts."]

/-- The text is one of the words for accounts. -/
def NamesAccounts (t : List Char) : Prop := SpellsAny accountWords t

/-- The text begins with an account behind which the line does not ask for a signature, up to the
last `.key` of the line, and `rest` follows. -/
def UnsignedKey (s rest : List Char) : Prop :=
  ∃ head middle key, s = head ++ (middle ++ (key ++ rest)) ∧
    NamesAccounts head ∧ Spells ".key" key ∧
    ¬Contains ".is_signer" (middle ++ (key ++ rest)) ∧ ¬Contains ".key" rest

/-- What the rule looks ahead for behind a key. -/
def signerCompared : Plain := sequence [blanks, text "==", blanks, text "ctx.accounts.signer.key"]

variable {s m rest : List Char}

theorem mem_ways_accounts {τ : Type} {ahead : τ → List Char → Bool} :
    m ∈ accounts.ways ahead s ↔ ∃ head, NamesAccounts head ∧ s = head ++ m := by
  simp only [accounts, mem_ways_sequence_cons, mem_ways_sequence_singleton, mem_ways_anyText,
    mem_ways_text]
  constructor
  · rintro ⟨_, ⟨first, ⟨w, mem, spells⟩, rfl⟩, second, spells', rfl⟩
    have both : Spells (w ++ ".accounts.") (first ++ second) :=
      Text.spells_append.mpr ⟨first, second, rfl, spells, spells'⟩
    refine ⟨first ++ second, ⟨w ++ ".accounts.", ?_, both⟩, (List.append_assoc ..).symm⟩
    exact List.mem_map_of_mem (f := (· ++ ".accounts.")) mem
  · rintro ⟨head, ⟨w, mem, spells⟩, rfl⟩
    obtain ⟨v, named, rfl⟩ : ∃ v ∈ ["instruction", "ctx"], v ++ ".accounts." = w :=
      List.mem_map.mp mem
    obtain ⟨first, second, rfl, spells, spells'⟩ := Text.spells_append.mp spells
    exact ⟨second ++ m, ⟨first, ⟨v, named, spells⟩, List.append_assoc ..⟩, second, spells', rfl⟩

theorem NamesAccounts.append_inj {head head' : List Char} (h : NamesAccounts head)
    (h' : NamesAccounts head') (e : head ++ m = head' ++ rest) : head = head' ∧ m = rest :=
  SpellsAny.append_inj (by decide) h h' e

theorem NamesAccounts.y_not_mem {head : List Char} (h : NamesAccounts head) : 'y' ∉ head :=
  SpellsAny.not_mem h (by decide)

theorem contains_of_mem_accountWords : ∀ w ∈ accountWords, Contains "accounts" w.toList := by
  decide

theorem NamesAccounts.contains {head : List Char} (h : NamesAccounts head) :
    Contains "accounts" head := by
  obtain ⟨w, mem, spells⟩ := h
  exact Contains.of_spells (contains_of_mem_accountWords w mem) spells

/-- On one line a signature is asked for if the word for it stands anywhere. -/
theorem begins_isSigner_iff (oneLine : '\n' ∉ m) :
    Plain.begins (sequence [line, text ".is_signer"]) m = true ↔ Contains ".is_signer" m := by
  simp only [Plain.begins_iff, line, CharClass.inLine, mem_ways_sequence_cons,
    mem_ways_sequence_singleton, mem_ways_most, mem_ways_text, CharClass.forall_except_singleton,
    Text.contains_iff]
  constructor
  · rintro ⟨rest, _, ⟨a, -, rfl⟩, x, spells, rfl⟩
    exact ⟨a, x, rest, rfl, spells⟩
  · rintro ⟨a, x, rest, rfl, spells⟩
    exact ⟨rest, _, ⟨a, fun mem ↦ oneLine (List.mem_append_left _ mem), rfl⟩, x, spells, rfl⟩

/-- A comparison with the signer's key has a `.key` of its own. -/
theorem begins_signerCompared_eq_false (none : ¬Contains ".key" rest) :
    signerCompared.begins rest = false := by
  refine Bool.eq_false_iff.mpr fun h ↦ none ?_
  simp only [Plain.begins_iff, signerCompared, mem_ways_sequence_cons, mem_ways_sequence_singleton,
    mem_ways_blanks, mem_ways_text] at h
  obtain ⟨more, _, ⟨left, -, rfl⟩, _, ⟨equals, -, rfl⟩, _, ⟨right, -, rfl⟩, signer, spells,
    rfl⟩ := h
  have key : Contains ".key" signer := Contains.of_spells (by decide) spells
  exact key.of_infix ⟨left ++ (equals ++ right), more, by simp only [List.append_assoc]⟩

/-- Only the first character of a `.key` can be the first of another. -/
theorem contains_key_append_tail {key : List Char} (spells : Spells ".key" key) :
    Contains ".key" (key.tail ++ rest) ↔ Contains ".key" rest := by
  have tail : key.tail.map Text.foldCase = "key".toList := by
    rw [List.map_tail, spells]
    rfl
  refine Text.contains_append_iff ?_
  rw [tail]
  decide

theorem rest?_key_iff :
    (sequence [text ".key", notAhead signerCompared]).rest? m = some rest ↔
      ∃ key, Spells ".key" key ∧ m = key ++ rest ∧ signerCompared.begins rest = false := by
  have ways (r : List Char) :
      r ∈ (sequence [text ".key", notAhead signerCompared]).ways Plain.begins m ↔
        ∃ key, Spells ".key" key ∧ m = key ++ r ∧ signerCompared.begins r = false := by
    simp only [mem_ways_sequence_cons, mem_ways_sequence_singleton, mem_ways_text,
      mem_ways_notAhead]
    constructor
    · rintro ⟨_, ⟨key, spells, rfl⟩, free, rfl⟩
      exact ⟨key, spells, rfl, free⟩
    · rintro ⟨key, spells, rfl, free⟩
      exact ⟨r, ⟨key, spells, rfl⟩, free, rfl⟩
  rw [rest?_eq_some_iff, ways]
  intro a ha b hb
  obtain ⟨key, spells, rfl, -⟩ := (ways a).mp ha
  obtain ⟨key', spells', e, -⟩ := (ways b).mp hb
  exact (spells.append_inj spells' e).2

/-- On one line the rule goes up to the last `.key`, whatever is compared. -/
theorem rest?_line_key_iff (oneLine : '\n' ∉ m) :
    (seq line (sequence [text ".key", notAhead signerCompared])).rest? m = some rest ↔
      ∃ middle key, m = middle ++ (key ++ rest) ∧ Spells ".key" key ∧ ¬Contains ".key" rest := by
  simp only [line, CharClass.inLine, rest?_seq_most, CharClass.forall_except_singleton]
  constructor
  · rintro ⟨middle, _, rfl, -, found, last⟩
    obtain ⟨key, spells, rfl, -⟩ := rest?_key_iff.mp found
    refine ⟨middle, key, rfl, spells, fun more ↦ ?_⟩
    -- The last of the later keys has none behind it, so no comparison keeps the rule from it.
    obtain ⟨a, key', b, rfl, spells', none⟩ := more.exists_last (by decide)
    have later := last (key ++ a) (key' ++ b) (List.append_assoc ..).symm
      (List.append_ne_nil_of_left_ne_nil (spells.ne_nil (by decide)) a)
      fun mem ↦ oneLine (by
        rw [← List.append_assoc key]
        exact List.mem_append_right _ (List.mem_append_left _ mem))
    rw [rest?_key_iff.mpr ⟨key', spells', rfl, begins_signerCompared_eq_false none⟩] at later
    cases later
  · rintro ⟨middle, key, rfl, spells, none⟩
    refine ⟨middle, key ++ rest, rfl, fun mem ↦ oneLine (List.mem_append_left _ mem),
      rest?_key_iff.mpr ⟨key, spells, rfl, begins_signerCompared_eq_false none⟩,
      fun a b e ne _ ↦ ?_⟩
    refine Option.eq_none_iff_forall_ne_some.mpr fun r found ↦ none ?_
    obtain ⟨key', spells', rfl, -⟩ := rest?_key_iff.mp found
    have tails : key.tail ++ rest = a.tail ++ (key' ++ r) := by
      rw [← List.tail_append_of_ne_nil (spells.ne_nil (by decide)), e,
        List.tail_append_of_ne_nil ne]
    rw [← contains_key_append_tail spells, tails]
    exact Text.contains_iff.mpr ⟨a.tail, key', r, rfl, spells'⟩

/-- The accounts end in one place only, so the rest of the rule decides there. -/
theorem rest?_missingSignerCheck_iff :
    missingSignerCheck.pattern.rest? s = some rest ↔
      ∃ head m, s = head ++ m ∧ NamesAccounts head ∧
        Plain.begins (sequence [line, text ".is_signer"]) m = false ∧
        (seq line (sequence [text ".key", notAhead signerCompared])).rest? m = some rest := by
  have unique : ∀ a ∈ accounts.ways Plain.begins s, ∀ b ∈ accounts.ways Plain.begins s, a = b := by
    intro a ha b hb
    obtain ⟨head, names, rfl⟩ := mem_ways_accounts.mp ha
    obtain ⟨head', names', e⟩ := mem_ways_accounts.mp hb
    exact (names.append_inj names' e).2
  have parts : missingSignerCheck.pattern = seq accounts
      (seq (notAhead (sequence [line, text ".is_signer"]))
        (seq line (sequence [text ".key", notAhead signerCompared]))) := rfl
  rw [parts, rest?_seq_iff unique]
  constructor
  · rintro ⟨m, mem, found⟩
    obtain ⟨head, names, rfl⟩ := mem_ways_accounts.mp mem
    exact ⟨head, m, rfl, names, rest?_seq_notAhead.mp found⟩
  · rintro ⟨head, m, rfl, names, found⟩
    exact ⟨m, mem_ways_accounts.mpr ⟨head, names, rfl⟩, rest?_seq_notAhead.mpr found⟩

theorem rest?_missingSignerCheck_ne_self (s : List Char) :
    missingSignerCheck.pattern.rest? s ≠ some s := by
  intro found
  obtain ⟨head, m, rfl, names, -, found⟩ := rest?_missingSignerCheck_iff.mp found
  obtain ⟨taken, e⟩ := Pattern.rest?_suffix _ found
  have length := congrArg List.length e
  simp only [List.length_append] at length
  have nil : head = [] := List.eq_nil_of_length_eq_zero (by omega)
  exact absurd (nil ▸ names.contains) (by decide)

/-- What the rule matches on one line. -/
theorem rest?_missingSignerCheck (oneLine : '\n' ∉ s) :
    missingSignerCheck.pattern.rest? s = some rest ↔ UnsignedKey s rest := by
  rw [rest?_missingSignerCheck_iff]
  constructor
  · rintro ⟨head, m, rfl, names, unsigned, found⟩
    have oneLine : '\n' ∉ m := fun mem ↦ oneLine (List.mem_append_right _ mem)
    obtain ⟨middle, key, rfl, spells, last⟩ := (rest?_line_key_iff oneLine).mp found
    refine ⟨head, middle, key, rfl, names, spells, fun signed ↦ ?_, last⟩
    rw [(begins_isSigner_iff oneLine).mpr signed] at unsigned
    cases unsigned
  · rintro ⟨head, middle, key, rfl, names, spells, unsigned, last⟩
    have oneLine : '\n' ∉ middle ++ (key ++ rest) :=
      fun mem ↦ oneLine (List.mem_append_right _ mem)
    refine ⟨head, _, rfl, names, ?_, ?_⟩
    · exact Bool.eq_false_iff.mpr fun signed ↦ unsigned ((begins_isSigner_iff oneLine).mp signed)
    · exact (rest?_line_key_iff oneLine).mpr ⟨middle, key, rfl, spells, last⟩

/-- On one line the matches of the rule on missing signers, unless its budget is spent, are the
unsigned keys from left to right. -/
theorem spans_missingSignerCheck_iff {source : String} {spans : List Span}
    (oneLine : '\n' ∉ source.toList)
    (whole : (missingSignerCheck.matchesIn source).exhausted = false) :
    (missingSignerCheck.matchesIn source).spans = spans ↔
      LeftToRight UnsignedKey 0 source.toList spans :=
  spans_matchesIn_iff rest?_missingSignerCheck_ne_self
    (fun _ part _ ↦ rest?_missingSignerCheck fun mem ↦ oneLine (part.subset mem)) whole

theorem UnsignedKey.contains (h : UnsignedKey s rest) : Contains "accounts" s := by
  obtain ⟨head, middle, key, rfl, names, -⟩ := h
  exact names.contains.of_infix (List.prefix_append _ _).isInfix

/-- Behind accounts there is an unsigned key if some key is read and no signature is asked for. -/
theorem exists_unsignedKey {head : List Char} (names : NamesAccounts head)
    (unsigned : ¬Contains ".is_signer" m) (keyed : Contains ".key" m) :
    ∃ rest, UnsignedKey (head ++ m) rest := by
  obtain ⟨middle, key, rest, rfl, spells, last⟩ := keyed.exists_last (by decide)
  exact ⟨rest, head, middle, key, rfl, names, spells, unsigned, last⟩

/-- Accounts are not named from a text that does not speak of them into `ctx.accounts.`. -/
theorem NamesAccounts.eq_nil_of_append {b t head : List Char} (names : NamesAccounts head)
    (e : b ++ ("ctx.accounts.".toList ++ t) = head ++ m) (clear : ¬Contains "accounts" b) :
    b = [] := by
  obtain ⟨w, mem, spells⟩ := names
  have folded := congrArg (List.map Text.foldCase) e
  rw [List.map_append, List.map_append, List.map_append, spells] at folded
  have speaks : Contains "accounts" w.toList := contains_of_mem_accountWords w mem
  -- No last part of the words agrees with `ctx.accounts.`, but the whole of the second.
  have apart : ∀ w ∈ accountWords,
      ∀ v ∈ (w.toList.map Text.foldCase).tails, v = [] ∨ v = w.toList.map Text.foldCase ∨
        ¬v <+: "ctx.accounts.".toList.map Text.foldCase ∧
          ¬"ctx.accounts.".toList.map Text.foldCase <+: v := by decide +kernel
  rcases List.append_eq_append_iff.mp folded with ⟨v, word, tail⟩ | ⟨v, whole, -⟩
  · rcases apart w mem v ((List.mem_tails _ _).mpr ⟨_, word.symm⟩) with rfl | same | ⟨no, no'⟩
    · rw [List.append_nil] at word
      rw [Contains, word] at speaks
      exact absurd speaks clear
    · have nil : b.map Text.foldCase = [] := by
        rw [same] at word
        exact List.self_eq_append_left.mp word
      exact List.map_eq_nil_iff.mp nil
    · have front : v <+: "ctx.accounts.".toList.map Text.foldCase ++ t.map Text.foldCase :=
        ⟨_, tail.symm⟩
      exact ((List.prefix_or_prefix_of_prefix front (List.prefix_append _ _)).elim no no').elim
  · have inside : w.toList.map Text.foldCase <:+: b.map Text.foldCase :=
      ⟨[], v, by rw [List.nil_append, whole]⟩
    exact absurd (speaks.trans inside) clear

/-- A line on which the key of an account is compared with the signer's. -/
structure SignerComparison where
  before : String
  account : String
  left : String
  right : String
  after : String
  named : account ≠ ""
  word : ∀ c ∈ account.toList, Text.isWord c = true
  spaced : ∀ c ∈ left.toList ++ right.toList, c = ' ' ∨ c = '\t'
  oneLine : '\n' ∉ before.toList ++ after.toList

namespace SignerComparison

variable (c : SignerComparison)

/-- The comparison itself. -/
def comparison : String :=
  "ctx.accounts." ++ c.account ++ ".key" ++ c.left ++ "==" ++ c.right ++ "ctx.accounts.signer.key"

/-- The whole line. -/
def text : String := c.before ++ c.comparison ++ c.after

/-- Nothing around the comparison speaks of accounts, and no key is read behind it. -/
def Alone : Prop :=
  ¬Contains "accounts" c.before.toList ∧ ¬Contains "accounts" c.after.toList ∧
    ¬Contains ".key" c.after.toList

/-- What the comparison has between the account's `ctx.accounts.` and the signer's `.key`. -/
def between : List Char :=
  c.account.toList ++ (".key".toList ++ (c.left.toList ++ ("==".toList ++ (c.right.toList ++
    "ctx.accounts.signer".toList))))

theorem toList_comparison :
    c.comparison.toList = "ctx.accounts.".toList ++ (c.between ++ ".key".toList) := by
  have signer : "ctx.accounts.signer.key" = "ctx.accounts.signer" ++ ".key" := by decide
  have parts : c.comparison = "ctx.accounts." ++ c.account ++ ".key" ++ c.left ++ "==" ++ c.right ++
      ("ctx.accounts.signer" ++ ".key") := congrArg (_ ++ ·) signer
  simp only [parts, between, String.toList_append, List.append_assoc]

theorem toList_text :
    c.text.toList = c.before.toList ++ (c.comparison.toList ++ c.after.toList) := by
  rw [text, String.toList_append, String.toList_append, List.append_assoc]

theorem foldCase_ne_dot {x : Char} (other : x ≠ '.') : Text.foldCase x ≠ '.' :=
  fun e ↦ other (Text.eq_of_foldCase_eq e (by decide))

theorem not_mem_text : '\n' ∉ c.text.toList := by
  have newline {l : List Char} (spaces : ∀ x ∈ l, x = ' ' ∨ x = '\t') : '\n' ∉ l :=
    fun mem ↦ (spaces _ mem).elim (by decide) (by decide)
  have account : '\n' ∉ c.account.toList := fun mem ↦ absurd (c.word _ mem) (by decide)
  have spaced := newline c.spaced
  have oneLine := c.oneLine
  simp only [List.mem_append, not_or] at spaced oneLine
  simp only [toList_text, toList_comparison, between, List.mem_append, not_or]
  exact ⟨oneLine.1, ⟨by decide, ⟨account, by decide, spaced.1, by decide, spaced.2, by decide⟩,
    by decide⟩, oneLine.2⟩

/-- The comparison does not ask for a signature. -/
theorem contains_isSigner_iff :
    Contains ".is_signer" (c.between ++ (".key".toList ++ c.after.toList)) ↔
      Contains ".is_signer" c.after.toList := by
  have dotless {x : Char} (blank : x = ' ' ∨ x = '\t') : Text.foldCase x ≠ '.' :=
    foldCase_ne_dot fun e ↦ by
      subst e
      revert blank
      decide
  have account (x : Char) (mem : x ∈ c.account.toList) : Text.foldCase x ≠ '.' :=
    foldCase_ne_dot fun e ↦ by
      have word := c.word x mem
      rw [e] at word
      revert word
      decide
  have left (x : Char) (mem : x ∈ c.left.toList) : Text.foldCase x ≠ '.' :=
    dotless (c.spaced x (List.mem_append_left _ mem))
  have right (x : Char) (mem : x ∈ c.right.toList) : Text.foldCase x ≠ '.' :=
    dotless (c.spaced x (List.mem_append_right _ mem))
  simp only [between, List.append_assoc]
  rw [Text.contains_append_of_forall_ne rfl account, Text.contains_append_iff (by decide +kernel),
    Text.contains_append_of_forall_ne rfl left, Text.contains_append_iff (by decide +kernel),
    Text.contains_append_of_forall_ne rfl right, Text.contains_append_iff (by decide +kernel),
    Text.contains_append_iff (by decide +kernel)]

/-- The comparison is an unsigned key itself, up to the signer's key. -/
theorem unsignedKey_comparison (unsigned : ¬Contains ".is_signer" c.after.toList)
    (last : ¬Contains ".key" c.after.toList) :
    UnsignedKey (c.comparison.toList ++ c.after.toList) c.after.toList := by
  refine ⟨"ctx.accounts.".toList, c.between, ".key".toList, ?_, ?_, rfl, ?_, last⟩
  · simp only [toList_comparison, List.append_assoc]
  · exact ⟨"ctx.accounts.", by decide, rfl⟩
  · exact fun signed ↦ unsigned (c.contains_isSigner_iff.mp signed)

/-- No match begins in front of the comparison. -/
theorem not_unsignedKey_before (clear : ¬Contains "accounts" c.before.toList) {a b : List Char}
    (e : c.before.toList = a ++ b) (ne : b ≠ []) (rest : List Char) :
    ¬UnsignedKey (b ++ (c.comparison.toList ++ c.after.toList)) rest := by
  rintro ⟨head, middle, key, same, names, -⟩
  rw [toList_comparison, List.append_assoc] at same
  refine ne (names.eq_nil_of_append same fun speaks ↦ clear (speaks.of_infix ?_))
  exact e ▸ (List.suffix_append a b).isInfix

/-- If a signature is asked for behind the comparison, no match begins in front of that. -/
theorem not_unsignedKey_of_isSigner (clear : ¬Contains "accounts" c.after.toList)
    (signed : Contains ".is_signer" c.after.toList) {t : List Char} (part : t <:+ c.text.toList)
    (rest : List Char) : ¬UnsignedKey t rest := by
  intro h
  have whole : c.text.toList = c.before.toList ++ ("ctx.accounts.".toList ++ (c.between ++
      ".ke".toList)) ++ ['y'] ++ c.after.toList := by
    have key : ".key".toList = ".ke".toList ++ ['y'] := by decide
    simp only [toList_text, toList_comparison, key, List.append_assoc]
  have tail : c.after.toList <:+ c.text.toList := whole ▸ List.suffix_append _ _
  rcases List.suffix_or_suffix_of_suffix part tail with inside | ⟨front, rfl⟩
  · exact clear (h.contains.of_infix inside.isInfix)
  obtain ⟨head, middle, key, e, names, -, unsigned, -⟩ := h
  rcases List.append_eq_append_iff.mp e with ⟨v, rfl, later⟩ | ⟨v, -, later⟩
  · -- The accounts would go on behind the signer's key, which ends with a letter they do not have.
    obtain ⟨start, e⟩ := part
    rw [whole, ← List.append_assoc, List.append_cancel_right_eq] at e
    rcases List.suffix_concat_iff.mp ⟨start, e⟩ with rfl | ⟨_, rfl, -⟩
    · refine clear (names.contains.of_infix ?_)
      exact ⟨[], _, later.symm⟩
    · exact names.y_not_mem (by simp)
  · exact unsigned (signed.of_infix (later ▸ (List.suffix_append _ _).isInfix))

end SignerComparison

/-- A key that is compared with the signer's is reported, unless the budget is spent, as if it were
not: on any line that does not go on to ask for a signature there is a match, and where nothing else
on the line matters it is the whole comparison. -/
theorem spans_signerComparison (c : SignerComparison)
    (whole : (missingSignerCheck.matchesIn c.text).exhausted = false) :
    (¬Contains ".is_signer" c.after.toList → (missingSignerCheck.matchesIn c.text).spans ≠ []) ∧
    (c.Alone → (missingSignerCheck.matchesIn c.text).spans =
      if Contains ".is_signer" c.after.toList then []
      else [⟨c.before.utf8ByteSize, c.before.utf8ByteSize + c.comparison.utf8ByteSize⟩]) := by
  have spans_iff {spans : List Span} : (missingSignerCheck.matchesIn c.text).spans = spans ↔
      LeftToRight UnsignedKey 0 c.text.toList spans :=
    spans_missingSignerCheck_iff c.not_mem_text whole
  refine ⟨fun unsigned none ↦ ?_, fun ⟨clearBefore, clearAfter, last⟩ ↦ ?_⟩
  · have key : Contains ".key" (c.between ++ (".key".toList ++ c.after.toList)) :=
      Text.contains_iff.mpr ⟨_, _, _, rfl, rfl⟩
    obtain ⟨rest, h⟩ := exists_unsignedKey ⟨"ctx.accounts.", by decide, rfl⟩
      (fun signed ↦ unsigned (c.contains_isSigner_iff.mp signed)) key
    refine (spans_iff.mp none).absent_of_nil _ ?_ rest h
    rw [c.toList_text, c.toList_comparison, List.append_assoc, List.append_assoc]
    exact List.suffix_append _ _
  · rw [spans_iff]
    by_cases signed : Contains ".is_signer" c.after.toList
    · rw [if_pos signed]
      exact .done fun t part ↦ c.not_unsignedKey_of_isSigner clearAfter signed part
    · rw [if_neg signed, c.toList_text, ← Text.size_toList, ← Text.size_toList,
        ← Nat.zero_add (Text.size c.before.toList)]
      exact .next (fun a b e ne ↦ c.not_unsignedKey_before clearBefore e ne)
        (c.unsignedKey_comparison signed last)
        (.done fun t part rest h ↦ clearAfter (h.contains.of_infix part.isInfix))

/-- The comparison of one account in a condition. -/
theorem spans_signerComparison_condition :
    let c : SignerComparison :=
      ⟨"if ", "a", "", "\t", ";", by decide, List.all_eq_true.mp (by decide),
        List.all_iff_forall_prop.mp (by decide), by decide⟩
    (missingSignerCheck.matchesIn c.text).exhausted = false ∧ c.Alone ∧
      (missingSignerCheck.matchesIn c.text).spans = [⟨3, 47⟩] := by
  intro c
  have whole : (missingSignerCheck.matchesIn c.text).exhausted = false := by decide +kernel
  have alone : c.Alone := by
    unfold SignerComparison.Alone
    decide +kernel
  refine ⟨whole, alone, ((spans_signerComparison c whole).2 alone).trans ?_⟩
  decide +kernel

/-- No key is read on this line but for the comparison with the signer's, and it is reported. -/
theorem spans_signerComparison_reported :
    let c : SignerComparison :=
      ⟨"", "authority", " ", " ", "", by decide, List.all_eq_true.mp (by decide),
        List.all_iff_forall_prop.mp (by decide), by decide⟩
    c.text = "ctx.accounts.authority.key == ctx.accounts.signer.key" ∧ c.Alone ∧
      (missingSignerCheck.matchesIn c.text).spans ≠ [] := by
  intro c
  refine ⟨by decide +kernel, ?_, by decide +kernel⟩
  unfold SignerComparison.Alone
  decide +kernel

end ContractScan.Rule.Solana
