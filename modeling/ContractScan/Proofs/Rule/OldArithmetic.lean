import ContractScan.Proofs.Analysis.Overlay
import ContractScan.Proofs.Rule.Matches
import ContractScan.Proofs.Text.Trim
import Mathlib.Data.List.DropRight

/-!
# Arithmetic under old compilers

What the rule on integer overflow finds, said without its pattern: a version directive with an old
version before any semicolon, and behind the version, before any opening brace, an operator that
changes a number (`OldArithmetic`). Where a version is old is decided character by character; read
as numbers, the minor version of an old one is below eight. So a source whose directives are closed
and name only versions with checked arithmetic is not reported (`spans_integerOverflow`).
-/

namespace ContractScan

/-- The ten digits of ASCII are decimal digits. -/
theorem Text.isDigit_of_le {c : Char} (low : '0' ≤ c) (high : c ≤ '9') : isDigit c = true :=
  forall_ascii (P := fun c ↦ '0' ≤ c → c ≤ '9' → isDigit c = true) (by decide) c
    (Nat.lt_of_le_of_lt (UInt32.le_iff_toNat_le.mp high) (by decide)) low high

namespace Rule.Evm

open Pattern
open Text (Spells SpellsAny)

variable {before s rest : List Char}

/-- The text begins with the two words of a version directive, with white space behind each, and
`rest` follows. -/
def VersionDirective (s rest : List Char) : Prop :=
  ∃ keyword gap language gap', s = keyword ++ (gap ++ (language ++ (gap' ++ rest))) ∧
    Spells "pragma" keyword ∧ (gap ≠ [] ∧ ∀ c ∈ gap, Text.isBlank c = true) ∧
    Spells "solidity" language ∧ (gap' ≠ [] ∧ ∀ c ∈ gap', Text.isBlank c = true)

/-- The text begins with a digit up to six, a minor version of one digit up to seven and a patch
number, with points between them, and `rest` follows. -/
def OldVersion (s rest : List Char) : Prop :=
  ∃ major minor patch, s = major :: '.' :: minor :: '.' :: (patch ++ rest) ∧
    ('0' ≤ major ∧ major ≤ '6') ∧ ('0' ≤ minor ∧ minor ≤ '7') ∧
    (patch ≠ [] ∧ ∀ c ∈ patch, Text.isDigit c = true)

/-- The text begins with a version directive, an old version comes before any semicolon and an
operator on numbers behind it before any opening brace, and `rest` follows. -/
def OldArithmetic (s rest : List Char) : Prop :=
  ∃ before version between sign, VersionDirective s (before ++ version) ∧ ';' ∉ before ∧
    OldVersion version (between ++ (sign ++ rest)) ∧ '{' ∉ between ∧
    ∃ w ∈ ["++", "--", "+=", "-=", "*=", "/="], sign = w.toList

/-- The ways to match the words of a version directive. -/
theorem mem_ways_versionDirective :
    rest ∈ (sequence [text "pragma", many .blank, text "solidity", many .blank]).ways
      Plain.begins s ↔ VersionDirective s rest := by
  simp only [mem_ways_sequence_cons, mem_ways_sequence_singleton, mem_ways_text, mem_ways_many,
    CharClass.holds_blank, VersionDirective]
  constructor
  · rintro ⟨_, ⟨keyword, spells, rfl⟩, _, ⟨gap, ne, blank, rfl⟩, _, ⟨language, spells', rfl⟩,
      gap', ne', blank', rfl⟩
    exact ⟨keyword, gap, language, gap', rfl, spells, ⟨ne, blank⟩, spells', ne', blank'⟩
  · rintro ⟨keyword, gap, language, gap', rfl, spells, ⟨ne, blank⟩, spells', ne', blank'⟩
    exact ⟨_, ⟨keyword, spells, rfl⟩, _, ⟨gap, ne, blank, rfl⟩, _, ⟨language, spells', rfl⟩,
      gap', ne', blank', rfl⟩

/-- The ways to match an old version. -/
theorem mem_ways_oldVersion :
    rest ∈ (sequence [one (.within '0' '6'), text ".", one (.within '0' '7'), text ".",
      many .digit]).ways Plain.begins s ↔ OldVersion s rest := by
  have point (t : List Char) : Spells "." t ↔ t = ['.'] :=
    Text.spells_iff (List.forall_mem_singleton.mpr (by decide))
  simp only [mem_ways_sequence_cons, mem_ways_sequence_singleton, mem_ways_text, mem_ways_many,
    mem_ways_one, point, exists_eq_left, List.singleton_append, CharClass.holds_digit,
    CharClass.holds_within, OldVersion]
  constructor
  · rintro ⟨_, ⟨major, old, rfl⟩, _, rfl, _, ⟨minor, old', rfl⟩, _, rfl, patch, some, digits, rfl⟩
    exact ⟨major, minor, patch, rfl, old, old', some, digits⟩
  · rintro ⟨major, minor, patch, rfl, old, old', some, digits⟩
    exact ⟨_, ⟨major, old, rfl⟩, _, rfl, _, ⟨minor, old', rfl⟩, _, rfl, patch, some, digits, rfl⟩

/-- The ways to match are the old versions with arithmetic. -/
theorem mem_ways_integerOverflow :
    rest ∈ integerOverflow.pattern.ways Plain.begins s ↔ OldArithmetic s rest := by
  have signs (t : List Char) : SpellsAny ["++", "--", "+=", "-=", "*=", "/="] t ↔
      ∃ w ∈ ["++", "--", "+=", "-=", "*=", "/="], t = w.toList :=
    Text.spellsAny_iff (by decide +kernel)
  have parts : integerOverflow.pattern = Pattern.sequence (
      [text "pragma", many .blank, text "solidity", many .blank] ++ ([most (.except [';'])] ++
      ([one (.within '0' '6'), text ".", one (.within '0' '7'), text ".", many .digit] ++
      [most (.except ['{']), anyText "++" ["--", "+=", "-=", "*=", "/="]]))) := rfl
  simp only [parts, mem_ways_sequence_append, mem_ways_versionDirective, mem_ways_oldVersion]
  simp only [mem_ways_sequence_cons, mem_ways_sequence_singleton, mem_ways_most, mem_ways_anyText,
    signs, CharClass.forall_except_singleton, OldArithmetic]
  constructor
  · rintro ⟨_, directive, _, ⟨before, outside, rfl⟩, _, version, _, ⟨between, outside', rfl⟩,
      sign, operator, rfl⟩
    exact ⟨before, _, between, sign, directive, outside, version, outside', operator⟩
  · rintro ⟨before, _, between, sign, directive, outside, version, outside', operator⟩
    exact ⟨_, directive, _, ⟨before, outside, rfl⟩, _, version, _, ⟨between, outside', rfl⟩,
      sign, operator, rfl⟩

theorem takesSomething_integerOverflow : integerOverflow.TakesSomething :=
  ⟨by decide, by decide⟩

/-- The text names a version by three numbers with points between them, of which neither the first
nor the last goes on. -/
def NamesVersion (t major minor patch : List Char) : Prop :=
  ∃ front back, t = front ++ (major ++ '.' :: (minor ++ '.' :: (patch ++ back))) ∧
    (∀ n ∈ [major, minor, patch], n ≠ [] ∧ ∀ c ∈ n, Text.isDigit c = true) ∧
    (∀ c ∈ front.getLast?, Text.isDigit c = false) ∧ ∀ c ∈ back.head?, Text.isDigit c = false

/-- The version is `0.b` with `b` at least eight, written without leading zeros. -/
def ChecksArithmetic (major minor : List Char) : Prop :=
  major = ['0'] ∧ ∃ b ≥ 8, minor = Nat.toDigits 10 b

/-- Each version directive of the source is closed by a semicolon and names only versions with
checked arithmetic before it. -/
def OnlyChecked (source : List Char) : Prop :=
  ∀ before s rest, source = before ++ s → VersionDirective s rest →
    ∃ body after, rest = body ++ ';' :: after ∧ ';' ∉ body ∧
      ∀ major minor patch, NamesVersion body major minor patch → ChecksArithmetic major minor

/-- A minor version of one digit up to seven is too low for checked arithmetic. -/
theorem not_checksArithmetic {major : List Char} {minor : Char} (high : minor ≤ '7') :
    ¬ChecksArithmetic major [minor] := by
  rintro ⟨-, b, low, digits⟩
  have short : (Nat.toDigits 10 b).length ≤ 1 := by rw [← digits, List.length_singleton]
  rw [Nat.length_toDigits_le_iff (by decide) (by decide), Nat.pow_one] at short
  obtain rfl | rfl : b = 8 ∨ b = 9 := by omega
  · obtain rfl : minor = '8' := (List.cons.inj digits).1
    exact absurd high (by decide)
  · obtain rfl : minor = '9' := (List.cons.inj digits).1
    exact absurd high (by decide)

/-- A version of which the first number may have more digits in front and the last more behind is
part of one that is named. -/
theorem namesVersion_append (before a : List Char) {patch : List Char} {major minor : Char}
    (digit : Text.isDigit major = true) (digit' : Text.isDigit minor = true) (some : patch ≠ [])
    (digits : ∀ c ∈ patch, Text.isDigit c = true) :
    NamesVersion (before ++ major :: '.' :: minor :: '.' :: (patch ++ a))
      (before.rtakeWhile Text.isDigit ++ [major]) [minor]
      ((patch ++ a).takeWhile Text.isDigit) := by
  refine ⟨before.rdropWhile Text.isDigit, (patch ++ a).dropWhile Text.isDigit, ?_, ?_, ?_, ?_⟩
  · rw [List.takeWhile_append_dropWhile, List.append_assoc, List.singleton_append,
      List.singleton_append, ← List.append_assoc, List.rdropWhile_append_rtakeWhile]
  · obtain ⟨c, patch, rfl⟩ := List.exists_cons_of_ne_nil some
    have longer : (c :: patch ++ a).takeWhile Text.isDigit =
        c :: (patch ++ a).takeWhile Text.isDigit :=
      List.takeWhile_cons_of_pos (digits c (.head patch))
    intro n mem
    simp only [List.mem_cons, List.not_mem_nil, or_false] at mem
    rcases mem with rfl | rfl | rfl
    · refine ⟨List.append_ne_nil_of_right_ne_nil _ (List.cons_ne_nil _ _), fun c mem ↦ ?_⟩
      rcases List.mem_append.mp mem with inFront | here
      · exact List.mem_rtakeWhile_imp inFront
      · exact List.mem_singleton.mp here ▸ digit
    · exact ⟨List.cons_ne_nil _ _, List.forall_mem_singleton.mpr digit'⟩
    · exact ⟨longer ▸ List.cons_ne_nil _ _, fun c ↦ List.mem_takeWhile_imp⟩
  · intro c last
    obtain ⟨ne, rfl⟩ := List.mem_getLast?_eq_getLast last
    exact Bool.eq_false_iff.mpr (List.rdropWhile_last_not _ before ne)
  · intro c head
    have stop := List.head?_dropWhile_not Text.isDigit (patch ++ a)
    rwa [Option.mem_def.mp head] at stop

/-- What stands in front of the first semicolon of a text begins what the semicolon closes. -/
theorem exists_eq_append_of_closed {u x body after : List Char} (outside : ';' ∉ u)
    (text : u ++ x = body ++ ';' :: after) : ∃ a, body = u ++ a := by
  rcases List.append_eq_append_iff.mp text with ⟨a, e, -⟩ | ⟨a, e, behind⟩
  · exact ⟨a, e⟩
  · cases a with
    | nil => exact ⟨[], by rw [e, List.append_nil, List.append_nil]⟩
    | cons c a =>
      obtain rfl := (List.cons.inj behind).1
      exact absurd (e ▸ List.mem_append_right body (.head a)) outside

/-- An old version before the semicolon that closes a text is part of a version that the text
names, with the same minor version. -/
theorem exists_namesVersion {before version x body after : List Char}
    (old : OldVersion version x) (outside : ';' ∉ before)
    (text : before ++ version = body ++ ';' :: after) :
    ∃ major minor patch, NamesVersion body major [minor] patch ∧ minor ≤ '7' := by
  obtain ⟨major, minor, patch, rfl, ⟨low, high⟩, ⟨low', high'⟩, some, digits⟩ := old
  have digit : Text.isDigit major = true :=
    Text.isDigit_of_le low (Char.le_trans high (by decide))
  have digit' : Text.isDigit minor = true :=
    Text.isDigit_of_le low' (Char.le_trans high' (by decide))
  have other {c : Char} (digit : Text.isDigit c = true) : ';' ≠ c := by
    rintro rfl
    exact absurd digit (by decide)
  have outside' : ';' ∉ before ++ major :: '.' :: minor :: '.' :: patch := by
    have inPatch : ';' ∉ patch := fun mem ↦ other (digits ';' mem) rfl
    simp [outside, other digit, other digit', inPatch]
  obtain ⟨a, rfl⟩ := exists_eq_append_of_closed (x := x) outside' (by simpa using text)
  have named := namesVersion_append before a digit digit' some digits
  rw [← List.cons_append, ← List.cons_append, ← List.cons_append, ← List.cons_append,
    ← List.append_assoc] at named
  exact ⟨_, minor, _, named, high'⟩

/-- A source that names only versions with checked arithmetic has no old arithmetic. -/
theorem not_oldArithmetic (checked : OnlyChecked (before ++ s)) : ¬OldArithmetic s rest := by
  rintro ⟨front, version, between, sign, directive, outside, old, -⟩
  obtain ⟨body, after, closed, -, versions⟩ := checked before s _ rfl directive
  obtain ⟨major, minor, patch, named, high⟩ := exists_namesVersion old outside closed
  exact not_checksArithmetic high (versions _ _ _ named)

/-- Of the rules that are not for Solana no other one reports this weakness. -/
theorem eq_integerOverflow_of_weakness : ∀ r ∈ catalog,
    r.set ≠ .solana → r.weakness = integerOverflow.weakness → r = integerOverflow := by
  decide +kernel

/-- The rule on integer overflow has a match exactly if somewhere in the source a directive with an
old version is followed by arithmetic. A source whose directives are closed and name only versions
with checked arithmetic has no match, and no analysis of it for an EVM chain reports an overflow,
wherever it comes from. -/
theorem spans_integerOverflow (source : String) :
    ((integerOverflow.matchesIn source).spans ≠ [] ↔
      ∃ before s rest, source.toList = before ++ s ∧ OldArithmetic s rest) ∧
    (OnlyChecked source.toList → (integerOverflow.matchesIn source).spans = [] ∧
      ∀ origin, (classify source origin).chain ≠ .solana →
        ∀ f ∈ (analyze source origin).findings, f.weakness ≠ integerOverflow.weakness) := by
  have found : (integerOverflow.matchesIn source).spans ≠ [] ↔
      ∃ before s rest, source.toList = before ++ s ∧ OldArithmetic s rest := by
    simp only [takesSomething_integerOverflow.spans_ne_nil_iff, mem_ways_integerOverflow]
  refine ⟨found, fun checked ↦ ?_⟩
  have none : (integerOverflow.matchesIn source).spans = [] := by
    by_contra ne
    obtain ⟨before, s, rest, text, old⟩ := found.mp ne
    exact not_oldArithmetic (text ▸ checked) old
  refine ⟨none, fun origin other f reported weak ↦ ?_⟩
  obtain ⟨r, applies, n, here, rfl⟩ := exists_of_mem_analyze reported
  obtain ⟨mem, set⟩ := mem_inSets.mp applies
  have notSolana : r.set ≠ .solana := fun same ↦
    Chain.solana_not_mem_ruleSets other (same ▸ set)
  obtain rfl := eq_integerOverflow_of_weakness r mem notSolana weak
  rw [linesIn, none] at here
  cases here

/-- The only version in a text with two points stands around them. -/
theorem NamesVersion.of_two_points {x y z major minor patch : List Char} (inX : '.' ∉ x)
    (inY : '.' ∉ y) (inZ : '.' ∉ z)
    (h : NamesVersion (x ++ '.' :: (y ++ '.' :: z)) major minor patch) :
    minor = y ∧ ∃ front, x = front ++ major := by
  obtain ⟨front, back, e, numbers, -⟩ := h
  have inNumber {n : List Char} (mem : n ∈ [major, minor, patch]) : '.' ∉ n := fun point ↦
    absurd ((numbers n mem).2 '.' point) (by decide)
  have inMajor : '.' ∉ major := inNumber (.head _)
  have inMinor : '.' ∉ minor := inNumber (.tail _ (.head _))
  have inFront : '.' ∉ front := by
    have points := congrArg (List.count '.') e
    simp only [List.count_append, List.count_cons_self, List.count_eq_zero_of_not_mem inX,
      List.count_eq_zero_of_not_mem inY, List.count_eq_zero_of_not_mem inZ] at points
    exact List.count_eq_zero.mp (by omega)
  have other {w : List Char} (absent : '.' ∉ w) : ∀ c ∈ w, (c != '.') = true :=
    fun c mem ↦ bne_iff_ne.mpr fun same ↦ absent (same ▸ mem)
  have stop {w : List Char} : ∀ c ∈ ('.' :: w).head?, (c != '.') = false := by
    rintro c ⟨⟩
    rfl
  rw [← List.append_assoc] at e
  obtain ⟨first, e⟩ := Text.span_inj (other inX)
    (other fun mem ↦ (List.mem_append.mp mem).elim inFront inMajor) stop stop e
  obtain ⟨second, -⟩ := Text.span_inj (other inY) (other inMinor) stop stop (List.cons.inj e).2
  exact ⟨second.symm, front, first⟩

/-- A source for a new compiler counts up before its first brace, where it is reported for something
else. -/
theorem spans_integerOverflow_new :
    let source := "Pragma\tsolidity 0.8.20;\nbool b = tx.origin == a[n++];"
    OnlyChecked source.toList ∧ (integerOverflow.matchesIn source).spans = [] ∧
    (classify source none).chain ≠ .solana ∧ (∃ f, f ∈ (analyze source none).findings) ∧
    ∀ f ∈ (analyze source none).findings, f.weakness ≠ integerOverflow.weakness := by
  intro source
  have directives : ∀ s ∈ source.toList.tails,
      ∀ rest ∈ (sequence [text "pragma", many .blank, text "solidity", many .blank]).ways
        Plain.begins s, rest = "0.8.20;\nbool b = tx.origin == a[n++];".toList := by
    decide +kernel
  have checked : OnlyChecked source.toList := by
    intro before s rest text directive
    obtain rfl := directives s ((List.mem_tails _ _).mpr ⟨before, text.symm⟩) rest
      (mem_ways_versionDirective.mpr directive)
    refine ⟨"0.8.20".toList, "\nbool b = tx.origin == a[n++];".toList, rfl, by decide, ?_⟩
    intro major minor patch named
    have ⟨_, _, _, numbers, _⟩ := named
    obtain ⟨rfl, front, first⟩ := NamesVersion.of_two_points (x := ['0']) (y := ['8'])
      (z := ['2', '0']) (by decide) (by decide) (by decide) named
    rcases List.append_eq_singleton_iff.mp first.symm with ⟨-, rfl⟩ | ⟨-, rfl⟩
    · exact ⟨rfl, 8, le_rfl, rfl⟩
    · exact absurd rfl (numbers [] (.head _)).1
  have noSolana : Context.ofSolanaWords? source = none := by decide +kernel
  have other : (classify source none).chain ≠ .solana := chain_classify_ne_solana noSolana none
  have applies : txOrigin ∈ inSets (classify source none).chain.ruleSets :=
    Rule.applies_of_set_eq_evm (by decide +kernel) rfl noSolana none
  have origin : (txOrigin.matchesIn source).spans = [⟨33, 45⟩] := by decide +kernel
  have found : ⟨33, 45⟩ ∈ (txOrigin.matchesIn source).spans := origin ▸ .head _
  obtain ⟨noOverflow, unreported⟩ := (spans_integerOverflow source).2 checked
  exact ⟨checked, noOverflow, other, ⟨_, findingOn_mem_analyze applies found⟩, unreported _ other⟩

end Rule.Evm

end ContractScan
