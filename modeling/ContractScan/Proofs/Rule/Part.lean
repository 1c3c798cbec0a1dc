import ContractScan.Proofs.Finding.Scan
import ContractScan.Proofs.Pattern.LeftToRight
import ContractScan.Proofs.Pattern.Ways

/-!
# Where matches stand

Each pattern of the catalog takes a character with every match, those that look ahead included
(`consumes_of_mem_catalog`). So no search stands still: the matches of a rule are parts of the
source that are not empty, one behind the other, at most as many as the source has bytes, and the
lines on which they start never go back. A source without a character needs no search at all
(`isPart_of_mem_matchesIn`).
-/

namespace ContractScan

/-- The span is a part of the source that is not empty: it starts and stops between characters. -/
structure Span.IsPart (source : String) (m : Span) : Prop where
  nonempty : m.start < m.stop
  within : m.stop ≤ source.utf8ByteSize
  starts : String.Pos.Raw.IsValid source ⟨m.start⟩
  stops : String.Pos.Raw.IsValid source ⟨m.stop⟩

namespace Rule

variable {r : Rule}

theorem consumes_of_mem_catalog (mem : r ∈ catalog) : r.pattern.consumes = true := by
  have all : ∀ r ∈ catalog, r.pattern.consumes = true := by decide +kernel
  exact all r mem

theorem rest?_ne_self_of_mem_catalog (mem : r ∈ catalog) (s : List Char) :
    r.pattern.rest? s ≠ some s :=
  Pattern.rest?_ne_self_of_consumes (consumes_of_mem_catalog mem) s

/-- What is found within the budget begins the matches of the pattern from left to right. -/
theorem exists_leftToRight (mem : r ∈ catalog) (source : String) :
    ∃ spans, (r.matchesIn source).spans <+: spans ∧
      LeftToRight (fun s rest ↦ r.pattern.rest? s = some rest) 0 source.toList spans :=
  ⟨_, r.pattern.spans_matchesIn_prefix r.budget source.toList,
    Pattern.leftToRight_spansFrom (rest?_ne_self_of_mem_catalog mem) 0 source.toList⟩

/-- Each match of a rule is a part of the source. -/
theorem isPart_of_mem_spans (mem : r ∈ catalog) {source : String} {m : Span}
    (found : m ∈ (r.matchesIn source).spans) : m.IsPart source := by
  obtain ⟨before, taken, rest, text, here, rfl⟩ := exists_of_mem_spans found
  have ne : taken ≠ [] := by
    rintro rfl
    exact rest?_ne_self_of_mem_catalog mem rest here
  have more := Text.size_pos ne
  have size : source.utf8ByteSize = Text.size before + (Text.size taken + Text.size rest) := by
    rw [← Text.size_toList, text, Text.size_append, Text.size_append]
  have behind : source.toList = (before ++ taken) ++ rest := by rw [text, List.append_assoc]
  constructor
  · show Text.size before < Text.size before + Text.size taken
    omega
  · show Text.size before + Text.size taken ≤ source.utf8ByteSize
    omega
  · exact Text.isValid_size text
  · show String.Pos.Raw.IsValid source ⟨Text.size before + Text.size taken⟩
    rw [← Text.size_append]
    exact Text.isValid_size behind

/-- There is at most one match for each byte of the source. -/
theorem length_spans_le (mem : r ∈ catalog) (source : String) :
    (r.matchesIn source).spans.length ≤ source.utf8ByteSize := by
  obtain ⟨spans, begins, matched⟩ := exists_leftToRight mem source
  calc (r.matchesIn source).spans.length
      ≤ spans.length := begins.length_le
    _ ≤ Text.size source.toList := matched.length_le_size (rest?_ne_self_of_mem_catalog mem)
    _ = source.utf8ByteSize := Text.size_toList source

/-- No rule of the catalog finds anything in an empty source. -/
theorem scan_empty {rules : List Rule} (all : rules ⊆ catalog) : scan rules "" = [] := by
  rw [scan_eq, List.flatMap_eq_nil_iff]
  intro r mem
  have none : (r.matchesIn "").spans = [] :=
    List.eq_nil_of_length_eq_zero (Nat.le_zero.mp (length_spans_le (all mem) ""))
  rw [linesIn, none]
  rfl

/-- The matches of a rule are parts of the source, one behind the other and at most one for each
byte. The lines that it reports never go back and are lines of the source. To stop at once where the
source is empty is the same as to run the rules on it. -/
theorem isPart_of_mem_matchesIn (mem : r ∈ catalog) (source : String) :
    (∀ m ∈ (r.matchesIn source).spans, m.IsPart source) ∧
    (r.matchesIn source).spans.Pairwise (fun a b ↦ a.start < b.start ∧ a.stop ≤ b.start) ∧
    (r.matchesIn source).spans.length ≤ source.utf8ByteSize ∧
    (∃ lines : List Nat, (scan [r] source).map Finding.line = lines.map some ∧
      lines.Pairwise (· ≤ ·) ∧ ∀ n ∈ lines, 1 ≤ n ∧ n ≤ (source.toList.splitOn '\n').length) ∧
    ∀ rules ⊆ catalog, (if source.isEmpty then [] else scan rules source) = scan rules source := by
  refine ⟨fun m ↦ isPart_of_mem_spans mem, ?_, length_spans_le mem source, ?_, ?_⟩
  · obtain ⟨spans, begins, matched⟩ := exists_leftToRight mem source
    have apart := matched.pairwise.sublist begins.sublist
    exact (r.pattern.pairwise_matchesIn r.budget source.toList).and apart
  · refine ⟨r.linesIn source, ?_, r.pairwise_linesIn source, ?_⟩
    · rw [scan_singleton, List.map_map]
      rfl
    · intro n here
      obtain ⟨m, -, rfl⟩ := List.mem_map.mp here
      have le := Source.Lines.lineOf_le source.toList m.start
      rw [Source.Lines.size_texts_ofSource, ← Source.Lines.length_splitOn] at le
      exact ⟨Source.one_le_lineOf source.toList m.start, le⟩
  · intro rules all
    split
    next none =>
      rw [String.isEmpty_iff] at none
      rw [none, scan_empty all]
    next => rfl

/-- Two sends are reported, behind a character of two bytes; the call between them is checked. -/
theorem isPart_of_mem_matchesIn_send :
    let r := Evm.uncheckedCall
    let source := "// é\na.send(1);\nb.call(2)\n; if (c) d.send(3); x"
    r ∈ catalog ∧ (r.matchesIn source).spans = [⟨7, 16⟩, ⟨37, 46⟩] ∧
    Span.IsPart source ⟨7, 16⟩ ∧ Span.IsPart source ⟨37, 46⟩ ∧
    (scan [r] source).map Finding.line = [some 2, some 4] ∧
    (if "".isEmpty then [] else scan [r] "") = scan [r] "" := by
  intro r source
  have mem : r ∈ catalog :=
    List.mem_append_left _ (List.mem_append_left _ (.tail _ (.tail _ (.head _))))
  have spans : (r.matchesIn source).spans = [⟨7, 16⟩, ⟨37, 46⟩] := by decide +kernel
  obtain ⟨parts, -, -, -, empty⟩ := isPart_of_mem_matchesIn mem source
  rw [spans] at parts
  refine ⟨mem, spans, parts _ (.head _), parts _ (.tail _ (.head _)), by decide +kernel, ?_⟩
  exact (isPart_of_mem_matchesIn mem "").2.2.2.2 [r] (fun r' here ↦ List.mem_singleton.mp here ▸ mem)

end Rule

end ContractScan
