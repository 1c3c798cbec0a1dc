import ContractScan.Proofs.Source.Offsets
import ContractScan.Proofs.Text.Trim

/-!
# Snippets of lines

A snippet is read as rows again. They are the rows of the source around the line, two on each side
where there are as many, each less the carriage return at its end; the line alone is marked
(`splitOn_snippet`).
-/

namespace ContractScan

namespace Text

/-- The text of a row stands before the carriage return at its end, or is all of a row without
one. -/
def IsTextOf (text row : List Char) : Prop :=
  row = text ++ ['\r'] ∨ row = text ∧ row.getLast? ≠ some '\r'

/-- Each row has one text. -/
theorem isTextOf_iff {text row : List Char} : IsTextOf text row ↔ chomp row = text := by
  constructor
  · rintro (rfl | ⟨rfl, other⟩)
    · rw [chomp, if_pos List.getLast?_concat, List.dropLast_concat]
    · rw [chomp, if_neg other]
  · rintro rfl
    rw [chomp]
    split
    next ended =>
      obtain ⟨text, rfl⟩ := List.getLast?_eq_some_iff.mp ended
      rw [List.dropLast_concat]
      exact .inl rfl
    next other => exact .inr ⟨rfl, other⟩

end Text

namespace Source.Lines

/-- The rows of a snippet. -/
def entries (ls : Lines) (line : Nat) : List (List Char) :=
  (ls.texts.extract (shownFrom line) (ls.shownTo line)).toList.mapIdx fun i l ↦
    if shownFrom line + i = line - 1 then ">>> ".toList ++ l else l

section

variable {ls : Lines} {line : Nat}

/-- Counted from one, the rows that are shown begin two before the line, or with the first. -/
theorem shownFrom_eq (line : Nat) : shownFrom line = max 1 (line - 2) - 1 := by
  rw [shownFrom, context]
  omega

/-- They end two after the line, or with the last. -/
theorem shownTo_eq (pos : 1 ≤ line) : ls.shownTo line = min ls.texts.size (line + 2) := by
  rw [shownTo, context]
  omega

theorem length_entries (pos : 1 ≤ line) (le : line ≤ ls.texts.size) :
    (ls.entries line).length = ls.shownTo line - shownFrom line := by
  have inside := (shown_of_le pos le).2.2
  rw [entries, List.length_mapIdx, Array.length_toList, Array.size_extract,
    Nat.min_eq_left inside]

/-- A row that is shown stands in the snippet as far down as from the first row shown. -/
theorem getElem?_entries (pos : 1 ≤ line) {number : Nat} (first : shownFrom line < number)
    (last : number ≤ ls.shownTo line) :
    (ls.entries line)[number - 1 - shownFrom line]? =
      ls.texts[number - 1]?.map fun l ↦ if number = line then ">>> ".toList ++ l else l := by
  have here : shownFrom line + (number - 1 - shownFrom line) = number - 1 := by omega
  have within :
      number - 1 - shownFrom line < min (ls.shownTo line) ls.texts.size - shownFrom line := by
    have inside : ls.shownTo line ≤ ls.texts.size := Nat.min_le_right _ _
    omega
  have marked : number - 1 = line - 1 ↔ number = line := by omega
  rw [entries, List.getElem?_mapIdx, Array.getElem?_toList, Array.getElem?_extract, if_pos within,
    here]
  simp only [marked]

end

variable {s : List Char} {line : Nat}

theorem size_texts_eq_length (s : List Char) :
    (ofSource s).texts.size = (s.splitOn '\n').length := by
  rw [ofSource, List.size_toArray, List.length_map]

theorem getElem?_texts_ofSource (s : List Char) (i : Nat) :
    (ofSource s).texts[i]? = (s.splitOn '\n')[i]?.map Text.chomp := by
  rw [ofSource, List.getElem?_toArray, List.getElem?_map]

/-- What a snippet shows comes from the rows of the source. -/
theorem exists_of_mem_entries {entry : List Char} (mem : entry ∈ (ofSource s).entries line) :
    ∃ row ∈ s.splitOn '\n', entry = ">>> ".toList ++ Text.chomp row ∨ entry = Text.chomp row := by
  have cut : ((ofSource s).texts.extract (shownFrom line) ((ofSource s).shownTo line)).toList ⊆
      (s.splitOn '\n').map Text.chomp := by
    rw [Array.toList_extract, List.extract_eq_take_drop]
    exact ((List.take_sublist _ _).trans (List.drop_sublist _ _)).subset
  obtain ⟨i, lt, rfl⟩ := List.mem_mapIdx.mp mem
  obtain ⟨row, part, text⟩ := List.mem_map.mp (cut (List.getElem_mem lt))
  refine ⟨row, part, ?_⟩
  rw [text]
  split
  · exact .inl rfl
  · exact .inr rfl

theorem newline_not_mem_of_mem_entries {entry : List Char}
    (mem : entry ∈ (ofSource s).entries line) : '\n' ∉ entry := by
  obtain ⟨row, part, shown⟩ := exists_of_mem_entries mem
  have text : '\n' ∉ Text.chomp row := by
    intro within
    have kept := Text.mem_filter_of_mem_splitOnP part ((Text.chomp_prefix row).subset within)
    exact absurd (List.mem_filter.mp kept).2 (by decide)
  rcases shown with rfl | rfl
  · exact fun within ↦ (List.mem_append.mp within).elim (by decide) text
  · exact text

/-- Split at its newlines a snippet falls into its rows. -/
theorem splitOn_snippet_eq_entries (pos : 1 ≤ line) (le : line ≤ (ofSource s).texts.size) :
    ((ofSource s).snippet line).splitOn '\n' = (ofSource s).entries line := by
  have ne : (ofSource s).entries line ≠ [] := by
    obtain ⟨first, here, -⟩ := shown_of_le pos le
    apply List.ne_nil_of_length_pos
    rw [length_entries pos le]
    omega
  rw [snippet_eq]
  exact List.splitOn_intercalate '\n' (fun _ ↦ newline_not_mem_of_mem_entries) ne

/-- The snippet of a line, split at its newlines, has the rows of the source from two before the
line to two after it, as far as there are such rows, in order. Each has the text of its row. The
line is marked, and no other row is. -/
theorem splitOn_snippet (source : String) {line : Nat} (pos : 1 ≤ line)
    (le : line ≤ (source.toList.splitOn '\n').length) :
    let rows := source.toList.splitOn '\n'
    let first := max 1 (line - 2)
    let last := min rows.length (line + 2)
    let shown := ((ofSource source.toList).snippet line).splitOn '\n'
    shown.length = last + 1 - first ∧
    (∀ number, first ≤ number → number ≤ last →
      ∃ row text, rows[number - 1]? = some row ∧ Text.IsTextOf text row ∧
        shown[number - first]? = some (if number = line then ">>> ".toList ++ text else text)) ∧
    ∃ row text, rows[line - 1]? = some row ∧ Text.IsTextOf text row ∧
      shown[min (line - 1) 2]? = some (">>> ".toList ++ text) := by
  intro rows first last shown
  have size : (ofSource source.toList).texts.size = rows.length := size_texts_eq_length _
  have le' : line ≤ (ofSource source.toList).texts.size := size ▸ le
  have parts : shown = (ofSource source.toList).entries line := splitOn_snippet_eq_entries pos le'
  have top : shownFrom line = first - 1 := shownFrom_eq line
  have bottom : (ofSource source.toList).shownTo line = last := by
    rw [shownTo_eq pos, size]
  have entry (number : Nat) (ge : first ≤ number) (le : number ≤ last) :
      ∃ row text, rows[number - 1]? = some row ∧ Text.IsTextOf text row ∧
        shown[number - first]? = some (if number = line then ">>> ".toList ++ text else text) := by
    have lt : number - 1 < rows.length := by omega
    refine ⟨rows[number - 1], Text.chomp rows[number - 1], List.getElem?_eq_getElem lt,
      Text.isTextOf_iff.mpr rfl, ?_⟩
    have place : number - first = number - 1 - shownFrom line := by omega
    rw [parts, place, getElem?_entries pos (by omega) (by omega), getElem?_texts_ofSource,
      List.getElem?_eq_getElem lt, Option.map_some, Option.map_some]
  refine ⟨?_, entry, ?_⟩
  · rw [parts, length_entries pos le', top, bottom]
    omega
  · obtain ⟨row, text, here, isText, marked⟩ := entry line (by omega) (by omega)
    have place : line - first = min (line - 1) 2 := by omega
    rw [place, if_pos rfl] at marked
    exact ⟨row, text, here, isText, marked⟩

/-- The last line is empty, the one before it ends in two carriage returns and looks as if it were
marked. -/
theorem splitOn_snippet_empty_line :
    let source := "a\r\n\n>>> b\r\r\n"
    let rows := source.toList.splitOn '\n'
    1 ≤ 4 ∧ 4 ≤ rows.length ∧
    let shown := ((ofSource source.toList).snippet 4).splitOn '\n'
    shown.length = 3 ∧
    (∀ number, 2 ≤ number → number ≤ 4 →
      ∃ row text, rows[number - 1]? = some row ∧ Text.IsTextOf text row ∧
        shown[number - 2]? = some (if number = 4 then ">>> ".toList ++ text else text)) ∧
    ∃ row text, rows[3]? = some row ∧ Text.IsTextOf text row ∧
      shown[2]? = some (">>> ".toList ++ text) := by
  intro source rows
  have count : rows.length = 4 := by decide +kernel
  have le : 4 ≤ rows.length := Nat.le_of_eq count.symm
  have last : min rows.length (4 + 2) = 4 := by rw [count]; rfl
  obtain ⟨length, each, marked⟩ := @splitOn_snippet source 4 (by decide) le
  refine ⟨by decide, le, ?_, ?_, marked⟩
  · rwa [last] at length
  · intro number ge le
    exact each number ge (last.symm ▸ le)

example : ((ofSource "a\r\n\n>>> b\r\r\n".toList).snippet 4).splitOn '\n' =
    ["".toList, ">>> b\r".toList, ">>> ".toList] := by
  decide +kernel

end Source.Lines

end ContractScan
