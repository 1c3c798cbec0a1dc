import ContractScan.Proofs.Source.Lines
import ContractScan.Proofs.Text.Utf8
import Mathlib.Data.Nat.Basic
import Mathlib.Order.Monotone.Defs

/-!
# Lines of byte offsets

An offset counts bytes, and the newlines before it are the newline bytes before it (`count_before`).
So the line that is found for an offset is one more than their number. It is a line of the text, and
the rows that its snippet shows are rows of the table (`lineAt_eq_one_add_count`).
-/

namespace ContractScan

namespace Text

/-- The newlines that begin before an offset are the newline bytes before it. -/
theorem count_before (offset : Nat) (s : List Char) :
    (before offset s).count '\n' =
      ((s.flatMap String.utf8EncodeChar).take offset).count '\n'.toUInt8 := by
  induction s generalizing offset with
  | nil => rw [before, List.flatMap_nil, List.take_nil, List.count_nil, List.count_nil]
  | cons c s ih =>
    rcases Nat.eq_zero_or_pos offset with rfl | pos
    · rw [before_zero, List.take_zero, List.count_nil, List.count_nil]
    · rw [before_cons pos, List.flatMap_cons, List.take_append, List.count_append,
        String.length_utf8EncodeChar, ← ih]
      by_cases newline : c = '\n'
      · subst newline
        have byte : (String.utf8EncodeChar '\n').take offset = ['\n'.toUInt8] :=
          List.take_of_length_le pos
        rw [byte, List.count_cons_self, List.count_singleton_self, Nat.add_comm]
      · have none : '\n'.toUInt8 ∉ (String.utf8EncodeChar c).take offset :=
          fun mem ↦ newline ((mem_utf8EncodeChar_iff (by decide)).mp (List.mem_of_mem_take mem))
        rw [List.count_cons_of_ne newline, List.count_eq_zero_of_not_mem none, Nat.zero_add]

/-- All newlines of a text are newline bytes of it. -/
theorem count_toByteArray (text : String) :
    text.toList.count '\n' = text.toByteArray.data.toList.count '\n'.toUInt8 := by
  have all : before (size text.toList) text.toList = text.toList := by
    have front := before_size text.toList []
    rwa [List.append_nil] at front
  have bytes : text.toByteArray.data.toList.length ≤ size text.toList := by
    rw [size_toList]
    exact Nat.le_refl _
  have counted := count_before (size text.toList) text.toList
  rwa [all, ← toList_toByteArray, List.take_of_length_le bytes] at counted

end Text

namespace Source.Lines

theorem length_startsFrom (pos : Nat) (ls : List (List Char)) :
    (startsFrom pos ls).length = ls.length := by
  induction ls generalizing pos with
  | nil => rfl
  | cons l ls ih => rw [startsFrom, List.length_cons, ih, List.length_cons]

/-- Each line of the table has a start. -/
theorem size_starts_ofSource (s : List Char) :
    (ofSource s).starts.size = (ofSource s).texts.size := by
  simp only [ofSource, List.size_toArray, length_startsFrom, List.length_map]

/-- The first row that the snippet of a line shows. -/
def shownFrom (line : Nat) : Nat := line - 1 - context

/-- The row before which the snippet of a line stops. -/
def shownTo (ls : Lines) (line : Nat) : Nat := min (line - 1 + context + 1) ls.texts.size

/-- The rows that a snippet shows, the one in question marked. -/
theorem snippet_eq (ls : Lines) (line : Nat) :
    ls.snippet line = ['\n'].intercalate
      ((ls.texts.extract (shownFrom line) (ls.shownTo line)).toList.mapIdx fun i l ↦
        if shownFrom line + i = line - 1 then ">>> ".toList ++ l else l) := by
  have rows : ls.texts.extract (shownFrom line) (line - 1 + context + 1) =
      ls.texts.extract (shownFrom line) (ls.shownTo line) := by
    rw [Array.extract_eq_extract_right, shownTo]
    omega
  rw [snippet, ← rows]
  rfl

/-- A line of the table is among the rows that its snippet shows, and these are in the table. -/
theorem shown_of_le {ls : Lines} {line : Nat} (pos : 1 ≤ line) (le : line ≤ ls.texts.size) :
    shownFrom line ≤ line - 1 ∧ line - 1 < ls.shownTo line ∧ ls.shownTo line ≤ ls.texts.size := by
  rw [shownFrom, shownTo]
  omega

/-- The line found for a byte offset is one more than the number of newline bytes before it. It is
one of the lines, it never goes back, and each line has a start. So the rows that its snippet shows
are in the table, and the line itself is among them. -/
theorem lineAt_eq_one_add_count (source : String) :
    (∀ offset, (ofSource source.toList).lineAt offset =
      1 + (source.toByteArray.data.toList.take offset).count '\n'.toUInt8) ∧
    let table := ofSource source.toList
    (∀ offset, 1 ≤ table.lineAt offset ∧ table.lineAt offset ≤ table.texts.size) ∧
    Monotone table.lineAt ∧
    table.texts.size = 1 + source.toByteArray.data.toList.count '\n'.toUInt8 ∧
    table.starts.size = table.texts.size ∧
    ∀ offset, let line := table.lineAt offset
      shownFrom line ≤ line - 1 ∧ line - 1 < table.shownTo line ∧
      table.shownTo line ≤ table.texts.size ∧
      table.snippet line = ['\n'].intercalate
        ((table.texts.extract (shownFrom line) (table.shownTo line)).toList.mapIdx fun i l ↦
          if shownFrom line + i = line - 1 then ">>> ".toList ++ l else l) := by
  refine ⟨fun offset ↦ ?_, ?_⟩
  · rw [lineAt_ofSource, lineOf, Text.count_before, ← Text.toList_toByteArray]
  intro table
  have isLine (offset : Nat) :
      1 ≤ table.lineAt offset ∧ table.lineAt offset ≤ table.texts.size := by
    rw [lineAt_ofSource]
    exact ⟨one_le_lineOf source.toList offset, lineOf_le source.toList offset⟩
  refine ⟨isLine, ?_, ?_, size_starts_ofSource source.toList, ?_⟩
  · intro a b le
    rw [lineAt_ofSource, lineAt_ofSource]
    exact lineOf_mono le
  · rw [size_texts_ofSource, Text.count_toByteArray]
  · intro offset line
    obtain ⟨pos, le⟩ := isLine offset
    obtain ⟨first, here, last⟩ := shown_of_le pos le
    exact ⟨first, here, last, snippet_eq table line⟩

/-- An offset on a newline, one inside a character and one at the end of a text whose last line is
empty. -/
example : let table := ofSource "a\n§\r\n".toList
    [1, 3, 6].map table.lineAt = [1, 2, 3] ∧ table.texts.size = 3 := by
  decide +kernel

end Source.Lines

end ContractScan
