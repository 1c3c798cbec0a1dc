import ContractScan.Proofs.Rule.Locality

/-!
# Operations of the bridge

What the rule on the bridge finds, said without its pattern: the lines on which a deposit or a
withdrawal stands before a mention of Matic, from the first such word to the end of the line
(`BridgeLine`). The rule also looks ahead for a checkpoint. But it does so where it has already
taken the whole line, so its matches are those of the rule that does not look ahead at all
(`spans_maticBridgeIssues`), wherever the source speaks of checkpoints.
-/

namespace ContractScan.Rule.Overlay

open Pattern
open Text (Spells SpellsAny)

variable {s rest : List Char}

/-- The rule on the bridge without what it looks ahead for. -/
def maticBridgeOperation : Rule :=
  { maticBridgeIssues with
    pattern := sequence [anyText "deposit" ["withdraw"], line, text "Matic", line] }

/-- The text begins with an operation of the bridge, Matic is mentioned later on the line, and
`rest` follows behind the line. -/
def BridgeLine (s rest : List Char) : Prop :=
  ∃ operation middle token tail, s = operation ++ (middle ++ (token ++ (tail ++ rest))) ∧
    SpellsAny ["deposit", "withdraw"] operation ∧ '\n' ∉ middle ∧ Spells "Matic" token ∧
    '\n' ∉ tail ∧ ∀ c ∈ rest.head?, c = '\n'

/-- The rule takes the same with what it looks ahead for as without. -/
theorem rest?_maticBridgeIssues (s : List Char) :
    maticBridgeIssues.pattern.rest? s = maticBridgeOperation.pattern.rest? s := by
  have lineEnd : (seq line (notAhead (sequence [line, text "checkpoint"]))).first Plain.begins
      some = (line : Pattern Plain).first Plain.begins some :=
    funext (rest?_line_notAhead (by decide) (by decide))
  show (anyText "deposit" ["withdraw"]).first Plain.begins (line.first Plain.begins
    ((text "Matic").first Plain.begins ((seq line (notAhead _)).first Plain.begins some))) s = _
  rw [lineEnd]
  rfl

/-- Behind an operation with its line there is what is left of the text without the line. -/
theorem BridgeLine.eq_dropWhile (h : BridgeLine s rest) :
    rest = s.dropWhile CharClass.inLine.holds := by
  obtain ⟨operation, middle, token, tail, rfl, operates, between, mentions, behind, stop⟩ := h
  have inLine {w : List Char} (absent : '\n' ∉ w) : ∀ c ∈ w, CharClass.inLine.holds c = true :=
    CharClass.forall_except_singleton.mpr absent
  have atEnd : rest.dropWhile CharClass.inLine.holds = rest := by
    cases rest with
    | nil => rfl
    | cons c rest =>
      obtain rfl := stop c rfl
      rfl
  rw [List.dropWhile_append_of_pos (inLine (operates.not_mem (by decide))),
    List.dropWhile_append_of_pos (inLine between),
    List.dropWhile_append_of_pos (inLine (mentions.not_mem (by decide))),
    List.dropWhile_append_of_pos (inLine behind), atEnd]

/-- The ways to go from an operation to a mention of Matic on its line. -/
theorem mem_ways_operation {m : List Char} :
    m ∈ (sequence [anyText "deposit" ["withdraw"], line, text "Matic"]).ways Plain.begins s ↔
      ∃ operation middle token, s = operation ++ (middle ++ (token ++ m)) ∧
        SpellsAny ["deposit", "withdraw"] operation ∧ '\n' ∉ middle ∧ Spells "Matic" token := by
  simp only [line, CharClass.inLine, mem_ways_sequence_cons, mem_ways_sequence_singleton,
    mem_ways_anyText, mem_ways_most, mem_ways_text, CharClass.forall_except_singleton]
  constructor
  · rintro ⟨_, ⟨operation, operates, rfl⟩, _, ⟨middle, between, rfl⟩, token, mentions, rfl⟩
    exact ⟨operation, middle, token, rfl, operates, between, mentions⟩
  · rintro ⟨operation, middle, token, rfl, operates, between, mentions⟩
    exact ⟨_, ⟨operation, operates, rfl⟩, _, ⟨middle, between, rfl⟩, token, mentions, rfl⟩

/-- From the first way to a mention of Matic the rule goes on to the end of the line. -/
theorem rest?_maticBridgeOperation_eq (s : List Char) : maticBridgeOperation.pattern.rest? s =
    ((sequence [anyText "deposit" ["withdraw"], line, text "Matic"]).ways Plain.begins s).findSome?
      fun m ↦ some (m.dropWhile CharClass.inLine.holds) := by
  have lineEnd : (line : Pattern Plain).first Plain.begins some =
      fun m ↦ some (m.dropWhile CharClass.inLine.holds) := funext rest?_line
  rw [← first_eq_findSome?, ← lineEnd]
  rfl

theorem bridgeLine_of_rest? (h : maticBridgeOperation.pattern.rest? s = some rest) :
    BridgeLine s rest := by
  rw [rest?_maticBridgeOperation_eq] at h
  obtain ⟨m, mem, e⟩ := List.exists_of_findSome?_eq_some h
  obtain rfl := Option.some.inj e
  obtain ⟨operation, middle, token, rfl, operates, between, mentions⟩ := mem_ways_operation.mp mem
  refine ⟨operation, middle, token, m.takeWhile CharClass.inLine.holds, ?_, operates, between,
    mentions, ?_, CharClass.eq_of_mem_head?_dropWhile_except m⟩
  · rw [List.takeWhile_append_dropWhile]
  · exact CharClass.forall_except_singleton.mp fun c ↦ List.mem_takeWhile_imp

/-- What the rule takes without looking ahead is an operation with its line. -/
theorem rest?_maticBridgeOperation :
    maticBridgeOperation.pattern.rest? s = some rest ↔ BridgeLine s rest := by
  refine ⟨bridgeLine_of_rest?, fun h ↦ ?_⟩
  have found : (maticBridgeOperation.pattern.rest? s).isSome := by
    obtain ⟨operation, middle, token, tail, e, operates, between, mentions, -, -⟩ := h
    rw [rest?_maticBridgeOperation_eq, List.findSome?_isSome_iff]
    exact ⟨_, mem_ways_operation.mpr ⟨operation, middle, token, e, operates, between, mentions⟩,
      rfl⟩
  obtain ⟨r, here⟩ := Option.isSome_iff_exists.mp found
  rw [here, (bridgeLine_of_rest? here).eq_dropWhile, h.eq_dropWhile]

theorem staysOnLine_maticBridgeOperation : maticBridgeOperation.StaysOnLine :=
  ⟨⟨by decide, by decide⟩, by decide⟩

/-- The matches of the rule that does not look ahead are operations with their lines. -/
theorem leftToRight_maticBridgeOperation (source : String) :
    LeftToRight BridgeLine 0 source.toList (maticBridgeOperation.matchesIn source).spans :=
  (LeftToRight.congr fun _ _ _ ↦ rest?_maticBridgeOperation).mp
    (staysOnLine_maticBridgeOperation.leftToRight source)

/-- A line alone has one match at most. -/
theorem pairwise_linesIn_of_not_mem {line : List Char} (oneLine : '\n' ∉ line) :
    (maticBridgeOperation.linesIn (String.ofList line)).Pairwise (· < ·) := by
  have matched := leftToRight_maticBridgeOperation (String.ofList line)
  rw [String.toList_ofList] at matched
  apply List.pairwise_map.mpr
  generalize (maticBridgeOperation.matchesIn (String.ofList line)).spans = spans at matched ⊢
  cases matched with
  | done => exact .nil
  | @next _ skipped taken rest _ _ here later =>
    have whole : rest = [] := by
      obtain ⟨-, -, -, -, -, -, -, -, -, stop⟩ := here
      cases rest with
      | nil => rfl
      | cons c rest =>
        obtain rfl := stop c rfl
        exact absurd (by simp) oneLine
    subst whole
    have none := later.eq_nil fun t part r begins ↦ by
      have found := rest?_maticBridgeOperation.mpr begins
      rw [List.eq_nil_of_suffix_nil part, staysOnLine_maticBridgeOperation.nothing] at found
      cases found
    rw [none]
    exact List.pairwise_singleton _ _

/-- The matches of the rule on the bridge, unless its budget is spent, are those of the rule that
does not look ahead: from left to right the operations with their lines, at most one on each. -/
theorem spans_maticBridgeIssues {source : String}
    (whole : (maticBridgeIssues.matchesIn source).exhausted = false) :
    (maticBridgeIssues.matchesIn source).spans = (maticBridgeOperation.matchesIn source).spans ∧
    LeftToRight BridgeLine 0 source.toList (maticBridgeIssues.matchesIn source).spans ∧
    (maticBridgeIssues.linesIn source).Pairwise (· < ·) := by
  have same : (maticBridgeIssues.matchesIn source).spans =
      (maticBridgeOperation.matchesIn source).spans := by
    rw [matchesIn_of_looksAhead_eq_false staysOnLine_maticBridgeOperation.plain,
      ← spansFrom_congr rest?_maticBridgeIssues]
    exact spans_matchesIn maticBridgeIssues.pattern _ source.toList whole
  refine ⟨same, same ▸ leftToRight_maticBridgeOperation source, ?_⟩
  have lines : maticBridgeIssues.linesIn source = maticBridgeOperation.linesIn source := by
    rw [linesIn, linesIn, same]
  rw [lines, ← String.ofList_toList (s := source)]
  exact staysOnLine_maticBridgeOperation.pairwise_linesIn
    (fun line ↦ pairwise_linesIn_of_not_mem) source.toList

/-- Checkpoints stand before the first match, in it and between the matches. -/
theorem spans_maticBridgeIssues_checkpoint :
    let source := "// checkpoint\ndeposit(a); withdraw Matic, checkpoint\n" ++
      "checkpoint\nWithdraw to mATIC"
    (maticBridgeIssues.matchesIn source).exhausted = false ∧
      (maticBridgeOperation.matchesIn source).spans = [⟨14, 52⟩, ⟨64, 81⟩] ∧
      LeftToRight BridgeLine 0 source.toList [⟨14, 52⟩, ⟨64, 81⟩] := by
  intro source
  have found : maticBridgeIssues.matchesIn source = ⟨[⟨14, 52⟩, ⟨64, 81⟩], false⟩ := by
    decide +kernel
  have whole : (maticBridgeIssues.matchesIn source).exhausted = false := by rw [found]
  obtain ⟨same, lines, -⟩ := spans_maticBridgeIssues whole
  rw [found] at same lines
  exact ⟨whole, same.symm, lines⟩

end ContractScan.Rule.Overlay
