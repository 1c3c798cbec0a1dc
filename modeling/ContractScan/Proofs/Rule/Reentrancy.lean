import ContractScan.Proofs.Analysis.Overlay
import ContractScan.Proofs.CommandLine.Analyze
import ContractScan.Proofs.Rule.Matches

/-!
# Calls before an update

What the simple rule on reentrancy finds, said without its pattern: a call statement and, before a
closing brace, an assignment to a balance (`CallThenUpdate`). No such call is missed: it lies in a
match, the analysis reports a critical finding on its line or an earlier one, and a run that is to
fail on critical findings does so (`findings_of_callThenUpdate`).
-/

namespace ContractScan.Rule.Evm

open Pattern
open Text (Spells SpellsAny)
open CommandLine (Invocation Surroundings loadSettings start)

variable {s r rest : List Char}

/-- White space and a text in brackets, which goes up to the first closing bracket. -/
def Bracketed (opening closing : Char) (t : List Char) : Prop :=
  ∃ gap inside, t = gap ++ opening :: (inside ++ [closing]) ∧
    (∀ c ∈ gap, Text.isBlank c = true) ∧ closing ∉ inside

/-- The text begins with a call statement, perhaps with options, which an assignment to a balance
follows before any closing brace, and `rest` comes after the sign of the assignment. -/
def CallThenUpdate (s rest : List Char) : Prop :=
  ∃ call options gap args gap' between name more index gap'' sign,
    s = call ++ (options ++ (gap ++ '(' :: (args ++ ')' :: (gap' ++ ';' :: (between ++ (name ++
        (more ++ (index ++ (gap'' ++ (sign ++ rest)))))))))) ∧
      Spells ".call" call ∧
      (options = [] ∨ Bracketed '{' '}' options) ∧
      (∀ c ∈ gap, Text.isBlank c = true) ∧
      ')' ∉ args ∧
      (∀ c ∈ gap', Text.isBlank c = true) ∧
      '}' ∉ between ∧
      SpellsAny ["balance", "amount", "value"] name ∧
      (∀ c ∈ more, Text.isWord c = true) ∧
      (index = [] ∨ Bracketed '[' ']' index) ∧
      (∀ c ∈ gap'', Text.isBlank c = true) ∧
      SpellsAny ["-=", "+=", "="] sign

section Ways

variable {τ : Type} {ahead : τ → List Char → Bool}

theorem mem_ways_optional_bracketed {p q : Pattern τ} {opening closing : Char}
    (opens : ∀ s r, r ∈ p.ways ahead s ↔ s = opening :: r)
    (closes : ∀ s r, r ∈ q.ways ahead s ↔ s = closing :: r) :
    r ∈ (optional (sequence [blanks, p, most (.except [closing]), q])).ways ahead s ↔
      ∃ t, (t = [] ∨ Bracketed opening closing t) ∧ s = t ++ r := by
  simp only [mem_ways_optional, mem_ways_sequence_cons, mem_ways_sequence_singleton,
    mem_ways_blanks, mem_ways_most, opens, closes, CharClass.forall_except_singleton]
  constructor
  · rintro (⟨_, ⟨gap, blank, rfl⟩, _, rfl, _, ⟨inside, within, rfl⟩, rfl⟩ | rfl)
    · exact ⟨_, .inr ⟨gap, inside, rfl, blank, within⟩, by simp⟩
    · exact ⟨[], .inl rfl, rfl⟩
  · rintro ⟨t, rfl | ⟨gap, inside, rfl, blank, within⟩, rfl⟩
    · exact .inr rfl
    · exact .inl ⟨opening :: (inside ++ closing :: r), ⟨gap, blank, by simp⟩, _, rfl,
        closing :: r, ⟨inside, within, rfl⟩, rfl⟩

theorem mem_ways_options :
    r ∈ (optional (sequence [blanks, char '{', most (.except ['}']), char '}'])).ways ahead s ↔
      ∃ t, (t = [] ∨ Bracketed '{' '}' t) ∧ s = t ++ r :=
  mem_ways_optional_bracketed (fun _ _ ↦ mem_ways_char (by decide) (by decide))
    (fun _ _ ↦ mem_ways_char (by decide) (by decide))

theorem mem_ways_index :
    r ∈ (optional (sequence [blanks, text "[", most (.except [']']), text "]"])).ways ahead s ↔
      ∃ t, (t = [] ∨ Bracketed '[' ']' t) ∧ s = t ++ r :=
  mem_ways_optional_bracketed (by simp [Text.spells_mark]) (by simp [Text.spells_mark])

end Ways

/-- The ways to match are the calls before an update. -/
theorem mem_ways_reentrancySimple :
    rest ∈ reentrancySimple.pattern.ways Plain.begins s ↔ CallThenUpdate s rest := by
  simp only [reentrancySimple, fewest, mem_ways_sequence_cons, mem_ways_sequence_singleton,
    mem_ways_options, mem_ways_index, mem_ways_blanks, mem_ways_most, mem_ways_run, mem_ways_text,
    mem_ways_anyText, Text.spells_mark, exists_eq_left, List.singleton_append, CharClass.holds_word,
    CharClass.forall_except_singleton, CallThenUpdate]
  constructor
  · rintro ⟨_, ⟨call, calls, rfl⟩, _, ⟨options, opts, rfl⟩, _, ⟨gap, blank, rfl⟩, _, rfl,
      _, ⟨args, inside, rfl⟩, _, rfl, _, ⟨gap', blank', rfl⟩, _, rfl, _, ⟨between, within, rfl⟩,
      _, ⟨name, names, rfl⟩, _, ⟨more, word, rfl⟩, _, ⟨index, indexed, rfl⟩,
      _, ⟨gap'', blank'', rfl⟩, sign, signs, rfl⟩
    exact ⟨call, options, gap, args, gap', between, name, more, index, gap'', sign, rfl, calls,
      opts, blank, inside, blank', within, names, word, indexed, blank'', signs⟩
  · rintro ⟨call, options, gap, args, gap', between, name, more, index, gap'', sign, rfl, calls,
      opts, blank, inside, blank', within, names, word, indexed, blank'', signs⟩
    exact ⟨_, ⟨call, calls, rfl⟩, _, ⟨options, opts, rfl⟩, _, ⟨gap, blank, rfl⟩, _, rfl,
      _, ⟨args, inside, rfl⟩, _, rfl, _, ⟨gap', blank', rfl⟩, _, rfl, _, ⟨between, within, rfl⟩,
      _, ⟨name, names, rfl⟩, _, ⟨more, word, rfl⟩, _, ⟨index, indexed, rfl⟩,
      _, ⟨gap'', blank'', rfl⟩, sign, signs, rfl⟩

theorem takesSomething_reentrancySimple : reentrancySimple.TakesSomething :=
  ⟨by decide, by decide⟩

/-- No call before an update is missed. It lies in a match; if the source has no Solana words, a
critical finding is reported on the line of the call or an earlier one, wherever the source comes
from, so the risk is critical, and a run that is to fail on critical findings ends with status 2. -/
theorem findings_of_callThenUpdate {source : String} {before : List Char}
    (noSolana : Context.ofSolanaWords? source = none) (text : source.toList = before ++ s)
    (call : CallThenUpdate s rest) :
    (∃ m ∈ (reentrancySimple.matchesIn source).spans,
      m.start ≤ Text.size before ∧ Text.size before < m.stop) ∧
    (∀ origin, (∃ f ∈ (analyze source origin).findings, f.weakness = "Reentrancy Simple" ∧
        f.severity = .critical ∧
        ∃ n, f.line = some n ∧ n ≤ Source.lineOf source.toList (Text.size before)) ∧
      (analyze source origin).summary.risk = .critical) ∧
    ∀ (w : World) (env : Surroundings) (args : List String) (i : Invocation) (settings : Settings)
        (file : String) (origin : Option String) (minSeverity : Option Severity),
      Invocation.parse args = .ok i →
      i.command = .analyze file origin minSeverity (some .critical) →
      (w.run (loadSettings env.folder i.config).run).1 = .ok settings →
      w.files.read file = .ok source →
      (w.run (start env args)).1.status = 2 := by
  obtain ⟨m, found, sooner, covers⟩ :=
    takesSomething_reentrancySimple.exists_covers text (mem_ways_reentrancySimple.mpr call)
  have mem_catalog : reentrancySimple ∈ catalog :=
    List.mem_append_left _ (List.mem_append_left _ (.tail _ (.head _)))
  have reported (origin : Option String) :
      reentrancySimple.findingOn source (Source.lineOf source.toList m.start) ∈
        (analyze source origin).findings :=
    findingOn_mem_analyze (applies_of_set_eq_evm mem_catalog rfl noSolana origin) found
  refine ⟨⟨m, found, sooner, covers⟩, ?_, ?_⟩
  · intro origin
    constructor
    · exact ⟨_, reported origin, rfl, rfl, _, rfl, Source.lineOf_mono sooner⟩
    · exact (Summary.risk_eq_critical_iff _).mpr ⟨_, reported origin, rfl⟩
  · intro w env args i settings file origin minSeverity parsed command loadable readable
    exact CommandLine.status_start_of_mem_findings env (reported origin) rfl parsed command
      loadable readable

/-- A payment before the balance is lowered. The options and the arguments of the call mention an
amount and a balance too. -/
def payment : String :=
  ".call \x7bvalue: amount\x7d\n(\"balance = 0\") ;\nbalances\t[id]\n-= amount;\x7d"

/-- A function with the payment. -/
def withdrawal : String := "function pay() \x7b\na" ++ payment

/-- The function in a file, in a world without settings. -/
def withdrawalWorld : World where
  files := { files := [(["Bank.sol"], withdrawal.toUTF8)] }
  environment _ := none
  time := "2026-01-01T00:00:00Z"
  reply _ := .error .tooManyRequests

/-- The payment is reported on the second line or the first. -/
theorem findings_of_callThenUpdate_withdrawal :
    let args := ["analyze", "Bank.sol", "--fail-on", "critical"]
    Context.ofSolanaWords? withdrawal = none ∧
    (∃ rest, CallThenUpdate payment.toList rest) ∧
    (∃ f ∈ (analyze withdrawal none).findings, f.weakness = "Reentrancy Simple" ∧
      f.severity = .critical ∧ ∃ n, f.line = some n ∧ n ≤ 2) ∧
    (withdrawalWorld.run (start ⟨none, false⟩ args)).1.status = 2 := by
  intro args
  have noSolana : Context.ofSolanaWords? withdrawal = none := by decide +kernel
  have call : CallThenUpdate payment.toList " amount;\x7d".toList :=
    mem_ways_reentrancySimple.mp (by decide +kernel)
  have parsed : Invocation.parse args =
      .ok ⟨none, 0, false, false, .analyze "Bank.sol" none none (some .critical)⟩ := rfl
  have settings : (withdrawalWorld.run (loadSettings none none).run).1 = .ok Settings.standard :=
    rfl
  have readable : withdrawalWorld.files.read "Bank.sol" = .ok withdrawal := by decide +kernel
  obtain ⟨-, reported, gated⟩ :=
    findings_of_callThenUpdate noSolana (String.toList_append ..) call
  have line : Source.lineOf withdrawal.toList
      (Text.size "function pay() \x7b\na".toList) = 2 := by decide +kernel
  refine ⟨noSolana, ⟨_, call⟩, line ▸ (reported none).1, ?_⟩
  exact gated withdrawalWorld ⟨none, false⟩ args _ _ "Bank.sol" none none parsed rfl settings
    readable

end ContractScan.Rule.Evm
