import ContractScan.Proofs.Pattern.Separator
import ContractScan.Proofs.Rule.Matches

/-!
# Rules that look at one line or one statement

The matches of some rules stay on one line, so that a source may be scanned line by line
(`spans_append_newline`). Those of some others run over line ends, but not past the semicolon that
ends a statement (`spans_append_semicolon`).
-/

namespace ContractScan.Rule

variable {r : Rule}

/-- Rules that read on in a line as far as they have to, but never past its end. -/
def lineRules : List Rule := [
  Solana.unsafeDeserialization, Solana.missingRentExemption, Solana.uninitializedAccount,
  Solana.missingBumpValidation, Overlay.pancakeswapRug, Overlay.avalancheConsensus]

/-- Rules for Solidity that do not read past a semicolon. -/
def statementRules : List Rule := [
  Evm.reentrancy, Evm.txOrigin, Evm.deprecatedFunctions, Evm.uninitializedStorage,
  Evm.delegatecallDanger]

/-- The rule takes something with every match, but no newline. -/
structure StaysOnLine (r : Rule) : Prop extends TakesSomething r where
  excludes : r.pattern.excludes '\n' = true

/-- The rule takes something with every match, but a semicolon only as the last character. -/
structure StaysInStatement (r : Rule) : Prop extends TakesSomething r where
  endsAt : r.pattern.endsAt ';' = true

theorem staysOnLine_of_mem_lineRules (mem : r ∈ lineRules) : r.StaysOnLine := by
  have all : ∀ r ∈ lineRules, r.pattern.looksAhead = false ∧ r.pattern.rest? [] = none ∧
      r.pattern.excludes '\n' = true := by decide +kernel
  obtain ⟨plain, nothing, excludes⟩ := all r mem
  exact ⟨⟨plain, nothing⟩, excludes⟩

/-- The matches in two parts of a source with a newline between them. -/
theorem StaysOnLine.spans_append (h : r.StaysOnLine) (a b : String) :
    (r.matchesIn (a ++ "\n" ++ b)).spans =
      (r.matchesIn a).spans ++ (r.matchesIn b).spans.map (Span.shift (a.utf8ByteSize + 1)) := by
  have text : (a ++ "\n" ++ b).toList = a.toList ++ '\n' :: b.toList := by
    rw [String.toList_append, String.toList_append, List.append_assoc]
    rfl
  have size : Text.size a.toList + '\n'.utf8Size = a.utf8ByteSize + 1 := by
    rw [Text.size_toList]
    rfl
  simp only [matchesIn_of_looksAhead_eq_false h.plain, text]
  rw [Pattern.spansFrom_append_cons h.excludes h.nothing, size]

/-- The lines with matches of two parts of a source with a newline between them. -/
theorem StaysOnLine.linesIn_append (h : r.StaysOnLine) (a b : String) :
    r.linesIn (a ++ "\n" ++ b) =
      r.linesIn a ++ (r.linesIn b).map (a.toList.count '\n' + 1 + ·) := by
  have text : (a ++ "\n" ++ b).toList = (a ++ "\n").toList ++ b.toList := String.toList_append
  have size : Text.size (a ++ "\n").toList = a.utf8ByteSize + 1 := by
    rw [Text.size_toList, String.utf8ByteSize_append]
    rfl
  have count : (a ++ "\n").toList.count '\n' = a.toList.count '\n' + 1 := by
    rw [String.toList_append, List.count_append]
    rfl
  rw [linesIn, h.spans_append, List.map_append, List.map_map]
  congr 1
  · apply List.map_congr_left
    intro m mem
    rw [matchesIn_of_looksAhead_eq_false h.plain] at mem
    have le := Pattern.stop_le_of_mem_spansFrom _ mem
    rw [text, String.toList_append, List.append_assoc, Source.lineOf_append_of_le (by omega)]
  · rw [linesIn, List.map_map]
    apply List.map_congr_left
    intro m _
    show Source.lineOf (a ++ "\n" ++ b).toList (a.utf8ByteSize + 1 + m.start) = _
    rw [text, ← size, Source.lineOf_size_add, count]
    rfl

/-- Each line with a match counts from one. -/
theorem one_le_of_mem_linesIn {source : String} {n : Nat} (mem : n ∈ r.linesIn source) : 1 ≤ n := by
  obtain ⟨m, -, rfl⟩ := List.mem_map.mp mem
  exact Source.one_le_lineOf source.toList m.start

/-- A source of one line has matches on this line only. -/
theorem eq_one_of_mem_linesIn {source : String} (oneLine : '\n' ∉ source.toList) {n : Nat}
    (mem : n ∈ r.linesIn source) : n = 1 := by
  obtain ⟨m, -, rfl⟩ := List.mem_map.mp mem
  exact Source.lineOf_of_not_mem oneLine m.start

theorem one_mem_linesIn_iff {source : String} (oneLine : '\n' ∉ source.toList) :
    1 ∈ r.linesIn source ↔ r.linesIn source ≠ [] := by
  constructor
  · exact List.ne_nil_of_mem
  · intro some
    obtain ⟨n, mem⟩ := List.exists_mem_of_ne_nil _ some
    rwa [← eq_one_of_mem_linesIn oneLine mem]

/-- The lines with matches of a source, after those of its first line. -/
theorem StaysOnLine.linesIn_next (h : r.StaysOnLine) {first : List Char} (inside : '\n' ∉ first)
    (s : List Char) : r.linesIn (String.ofList (first ++ '\n' :: s)) =
      r.linesIn (String.ofList first) ++ (r.linesIn (String.ofList s)).map (1 + ·) := by
  have parts : String.ofList (first ++ '\n' :: s) =
      String.ofList first ++ "\n" ++ String.ofList s := by
    rw [List.append_cons, String.ofList_append, String.ofList_append]
  rw [parts, h.linesIn_append, String.toList_ofList, List.count_eq_zero_of_not_mem inside,
    Nat.zero_add]

/-- A line of a source has a match if it has one when it is scanned alone. -/
theorem StaysOnLine.mem_linesIn_iff (h : r.StaysOnLine) (s : List Char) {i : Nat}
    {line : List Char} (here : (s.splitOn '\n')[i]? = some line) :
    i + 1 ∈ r.linesIn (String.ofList s) ↔ r.linesIn (String.ofList line) ≠ [] := by
  induction s using Source.lines_induction generalizing i with
  | last only inside =>
    rw [List.splitOn_eq_singleton inside] at here
    obtain ⟨le, rfl⟩ := List.getElem?_eq_some_iff.mp here
    obtain rfl := Nat.lt_one_iff.mp le
    exact one_mem_linesIn_iff (by rwa [String.toList_ofList])
  | next first s inside ih =>
    have oneLine : '\n' ∉ (String.ofList first).toList := by rwa [String.toList_ofList]
    rw [List.splitOn_append_cons_self_of_not_mem inside] at here
    rw [h.linesIn_next inside, List.mem_append, List.mem_map]
    cases i with
    | zero =>
      obtain rfl := Option.some.inj here
      rw [← one_mem_linesIn_iff oneLine]
      apply or_iff_left
      rintro ⟨n, mem, e⟩
      have pos := one_le_of_mem_linesIn mem
      omega
    | succ i =>
      rw [← ih here]
      constructor
      · rintro (mem | ⟨n, mem, e⟩)
        · have only := eq_one_of_mem_linesIn oneLine mem
          omega
        · obtain rfl : n = i + 1 := by omega
          exact mem
      · intro mem
        exact .inr ⟨i + 1, mem, by omega⟩

/-- If no line alone has two matches, the lines with matches come one after the other. -/
theorem StaysOnLine.pairwise_linesIn (h : r.StaysOnLine)
    (alone : ∀ line, '\n' ∉ line → (r.linesIn (String.ofList line)).Pairwise (· < ·))
    (s : List Char) : (r.linesIn (String.ofList s)).Pairwise (· < ·) := by
  induction s using Source.lines_induction with
  | last line inside => exact alone line inside
  | next first s inside ih =>
    have oneLine : '\n' ∉ (String.ofList first).toList := by rwa [String.toList_ofList]
    rw [h.linesIn_next inside]
    refine List.pairwise_append.mpr ⟨alone first inside, ?_, ?_⟩
    · exact List.pairwise_map.mpr (ih.imp fun lt ↦ Nat.add_lt_add_left lt 1)
    · intro m here n later
      obtain ⟨n, mem, rfl⟩ := List.mem_map.mp later
      have only := eq_one_of_mem_linesIn oneLine here
      have pos := one_le_of_mem_linesIn mem
      omega

/-- The matches of a line rule in two texts with a newline between them are those in the first and,
shifted, those in the second. So the rule reports a line of a source exactly if it reports something
about that line alone. -/
theorem spans_append_newline (mem : r ∈ lineRules) :
    (∀ a b : String, (r.matchesIn (a ++ "\n" ++ b)).spans =
      (r.matchesIn a).spans ++ (r.matchesIn b).spans.map (Span.shift (a.utf8ByteSize + 1))) ∧
    ∀ (source : String) (i : Nat) (line : List Char),
      (source.toList.splitOn '\n')[i]? = some line →
      ((∃ f ∈ scan [r] source, f.line = some (i + 1)) ↔ scan [r] (String.ofList line) ≠ []) := by
  have stays := staysOnLine_of_mem_lineRules mem
  refine ⟨stays.spans_append, ?_⟩
  intro source i line here
  have flagged : (∃ f ∈ scan [r] source, f.line = some (i + 1)) ↔ i + 1 ∈ r.linesIn source := by
    simp only [scan_singleton, List.mem_map, exists_exists_and_eq_and, line_findingOn,
      Option.some.injEq, exists_eq_right]
  have some : scan [r] (String.ofList line) ≠ [] ↔ r.linesIn (String.ofList line) ≠ [] := by
    rw [scan_singleton, ne_eq, List.map_eq_nil_iff]
  have same := stays.mem_linesIn_iff source.toList here
  rw [String.ofList_toList] at same
  rw [flagged, some, same]

/-- The time of a block is on the first line and on the second, finality on the second only. -/
theorem spans_append_newline_finality :
    let r := Overlay.avalancheConsensus
    let first := "// é block.timestamp\r"
    let second := "require(block.timestamp > finality);"
    r ∈ lineRules ∧
    (r.matchesIn (first ++ "\n" ++ second)).spans = [⟨31, 57⟩] ∧
    ∃ f ∈ scan [r] (first ++ "\n" ++ second), f.line = some 2 := by
  intro r first second
  have mem : r ∈ lineRules := .tail _ (.tail _ (.tail _ (.tail _ (.tail _ (.head _)))))
  obtain ⟨spans, lines⟩ := spans_append_newline mem
  refine ⟨mem, (spans first second).trans (by decide +kernel), ?_⟩
  exact (lines (first ++ "\n" ++ second) 1 second.toList (by decide)).mpr (by decide +kernel)

theorem staysInStatement_of_mem_statementRules (mem : r ∈ statementRules) : r.StaysInStatement := by
  have all : ∀ r ∈ statementRules, r.pattern.looksAhead = false ∧ r.pattern.rest? [] = none ∧
      r.pattern.endsAt ';' = true := by decide +kernel
  obtain ⟨plain, nothing, endsAt⟩ := all r mem
  exact ⟨⟨plain, nothing⟩, endsAt⟩

/-- The matches in two parts of a source of which the first ends with a semicolon. -/
theorem StaysInStatement.spans_append (h : r.StaysInStatement) (a b : String) :
    (r.matchesIn (a ++ ";" ++ b)).spans = (r.matchesIn (a ++ ";")).spans ++
      (r.matchesIn b).spans.map (Span.shift (a.utf8ByteSize + 1)) := by
  have front : (a ++ ";").toList = a.toList ++ [';'] := String.toList_append
  have text : (a ++ ";" ++ b).toList = a.toList ++ ';' :: b.toList := by
    rw [String.toList_append, front, List.append_assoc]
    rfl
  have size : Text.size a.toList + ';'.utf8Size = a.utf8ByteSize + 1 := by
    rw [Text.size_toList]
    rfl
  simp only [matchesIn_of_looksAhead_eq_false h.plain, front, text]
  rw [Pattern.spansFrom_append_of_endsAt h.endsAt h.nothing, size]

/-- A match over a line end, for each of the statement rules. -/
theorem exists_match_over_newline (mem : r ∈ statementRules) :
    ∃ source, ∃ m ∈ (r.matchesIn source).spans,
      Source.lineOf source.toList m.start < Source.lineOf source.toList m.stop := by
  simp only [statementRules, List.mem_cons, List.not_mem_nil, or_false] at mem
  rcases mem with rfl | rfl | rfl | rfl | rfl
  · exact ⟨".send(before\nstate", by decide +kernel⟩
  · exact ⟨"tx.origin\n== owner", by decide +kernel⟩
  · exact ⟨"throw\n;", by decide +kernel⟩
  · exact ⟨"mapping(uint => uint)\nstorage m;", by decide +kernel⟩
  · exact ⟨"a.delegatecall\n(x)", by decide +kernel⟩

/-- The matches of a statement rule in two texts with a semicolon between them are those up to the
semicolon and, shifted, those behind it. So no match goes on behind a semicolon, though each of the
rules has matches that go on behind a newline. -/
theorem spans_append_semicolon (mem : r ∈ statementRules) :
    (∀ a b : String,
      (r.matchesIn (a ++ ";" ++ b)).spans = (r.matchesIn (a ++ ";")).spans ++
        (r.matchesIn b).spans.map (Span.shift (a.utf8ByteSize + 1)) ∧
      ∀ m ∈ (r.matchesIn (a ++ ";" ++ b)).spans,
        m.stop ≤ a.utf8ByteSize + 1 ∨ a.utf8ByteSize + 1 ≤ m.start) ∧
    ∃ source, ∃ m ∈ (r.matchesIn source).spans,
      Source.lineOf source.toList m.start < Source.lineOf source.toList m.stop := by
  have stays := staysInStatement_of_mem_statementRules mem
  refine ⟨fun a b ↦ ⟨stays.spans_append a b, ?_⟩, exists_match_over_newline mem⟩
  intro m found
  rw [stays.spans_append, List.mem_append] at found
  rcases found with front | behind
  · left
    rw [matchesIn_of_looksAhead_eq_false stays.plain] at front
    have le := (Pattern.stop_le_of_mem_spansFrom _ front).2
    rw [Text.size_toList, String.utf8ByteSize_append, Nat.zero_add] at le
    exact le
  · right
    obtain ⟨m, -, rfl⟩ := List.mem_map.mp behind
    exact Nat.le_add_right _ m.start

/-- The semicolon ends the first match, and the second begins behind it. -/
theorem spans_append_semicolon_throw :
    let r := Evm.deprecatedFunctions
    r ∈ statementRules ∧
    (r.matchesIn ("if (x) throw\n" ++ ";" ++ "sha3(x);")).spans = [⟨7, 14⟩, ⟨14, 19⟩] := by
  intro r
  have mem : r ∈ statementRules := .tail _ (.tail _ (.head _))
  exact ⟨mem, ((spans_append_semicolon mem).1 _ _).1.trans (by decide +kernel)⟩

end ContractScan.Rule
