import ContractScan.Proofs.Text.LetterCase
import ContractScan.Text.Blank
import Mathlib.Data.List.DropRight
import Mathlib.Data.List.TakeDrop

/-!
# Texts that are cut

A text whose beginning is kept loses by trimming only of what follows (`trim_append`), one that
begins and ends with no white space loses none of its own (`trimmed_append`), and the parts of a
text that is split have just those characters of it at which it is not split
(`mem_filter_of_mem_splitOnP`, `exists_mem_splitOnP`).
-/

namespace ContractScan.Text

variable {s t : List Char} {p : Char → Bool}

/-- A text is cut where its first part ends if all of this part passes and the next does not. -/
theorem span_append (all : ∀ c ∈ s, p c = true) (stop : ∀ c ∈ t.head?, p c = false) :
    (s ++ t).span p = (s, t) := by
  have rest : t.takeWhile p = [] ∧ t.dropWhile p = t := by
    cases t with
    | nil => exact ⟨rfl, rfl⟩
    | cons c t => simp [stop c rfl]
  rw [List.span_eq_takeWhile_dropWhile, List.takeWhile_append_of_pos all,
    List.dropWhile_append_of_pos all, rest.1, rest.2, List.append_nil]

/-- A text has one longest beginning that passes. -/
theorem span_inj {s' t' : List Char} (all : ∀ c ∈ s, p c = true) (all' : ∀ c ∈ s', p c = true)
    (stop : ∀ c ∈ t.head?, p c = false) (stop' : ∀ c ∈ t'.head?, p c = false)
    (e : s ++ t = s' ++ t') : s = s' ∧ t = t' := by
  have cut := span_append all stop
  rw [e, span_append all' stop'] at cut
  exact ⟨(Prod.mk.inj cut).1.symm, (Prod.mk.inj cut).2.symm⟩

theorem forall_head_append {P : Char → Prop} (ne : s ≠ []) (all : ∀ c ∈ s, P c) :
    ∀ c ∈ (s ++ t).head?, P c := by
  cases s with
  | nil => exact absurd rfl ne
  | cons c s =>
    rintro d ⟨⟩
    exact all c (.head s)

theorem forall_head_append_cons {P : Char → Prop} {c : Char} (all : ∀ d ∈ s, P d) (next : P c) :
    ∀ d ∈ (s ++ c :: t).head?, P d := by
  cases s with
  | nil =>
    rintro d ⟨⟩
    exact next
  | cons d s => exact forall_head_append (List.cons_ne_nil d s) all

theorem forall_head_rdropWhile {P : Char → Prop} (first : ∀ c ∈ s.head?, P c) (p : Char → Bool) :
    ∀ c ∈ (s.rdropWhile p).head?, P c := by
  obtain ⟨rest, e⟩ := s.rdropWhile_prefix p
  intro c head
  refine first c ?_
  rw [← e, List.head?_append, head]
  rfl

theorem rdropWhile_append (kept : ∀ c ∈ s, p c = false) :
    (s ++ t).rdropWhile p = s ++ t.rdropWhile p := by
  have all : s.reverse.dropWhile p = s.reverse := by
    cases back : s.reverse with
    | nil => rfl
    | cons c r =>
      refine List.dropWhile_cons_of_neg (Bool.eq_false_iff.mp (kept c ?_))
      exact List.mem_reverse.mp (back ▸ .head r)
  rw [List.rdropWhile, List.rdropWhile, List.reverse_append, List.dropWhile_append, all]
  split
  next dropped => rw [List.isEmpty_iff.mp dropped, List.reverse_reverse, List.reverse_nil,
    List.append_nil]
  next => rw [List.reverse_append, List.reverse_reverse]

/-- Of a text whose beginning is kept, trimming takes only from what follows. -/
theorem trim_append (ne : s ≠ []) (kept : ∀ c ∈ s, p c = false) :
    ((s ++ t).dropWhile p).rdropWhile p = s ++ t.rdropWhile p := by
  cases s with
  | nil => exact absurd rfl ne
  | cons c s =>
    rw [List.cons_append, List.dropWhile_cons_of_neg (Bool.eq_false_iff.mp (kept c (.head s))),
      ← List.cons_append, rdropWhile_append kept]

theorem trim_of_kept (kept : ∀ c ∈ s, p c = false) : (s.dropWhile p).rdropWhile p = s := by
  cases s with
  | nil => rfl
  | cons c s =>
    have trim := trim_append (t := []) (List.cons_ne_nil c s) kept
    rwa [List.rdropWhile_nil, List.append_nil] at trim

/-- Trimming takes all white space from around a text that begins and ends with something else. -/
theorem trimmed_append {w w' : List Char} {first last : Char} (before : ∀ c ∈ w, isBlank c = true)
    (begins : isBlank first = false) (ends : isBlank last = false)
    (after : ∀ c ∈ w', isBlank c = true) :
    trimmed (w ++ first :: (s ++ [last]) ++ w') = first :: (s ++ [last]) := by
  have flipped : ∀ c ∈ w'.reverse, isBlank c = true := fun c mem ↦ after c (List.mem_reverse.mp mem)
  rw [trimmed, List.append_assoc, List.dropWhile_append_of_pos before, List.cons_append,
    List.dropWhile_cons_of_neg (Bool.eq_false_iff.mp begins), ← List.cons_append, ← List.cons_append,
    List.reverse_append, List.dropWhile_append_of_pos flipped, List.reverse_append,
    List.reverse_singleton, List.singleton_append,
    List.dropWhile_cons_of_neg (Bool.eq_false_iff.mp ends), List.reverse_cons, List.reverse_reverse]

theorem trimmed_of_alphanum (h : s.all Char.isAlphanum = true) : trimmed s = s :=
  trim_of_kept fun c mem ↦
    forall_alphanum (P := fun c ↦ isBlank c = false) (by decide) (List.all_eq_true.mp h c mem)

/-- The parts of a text have no characters that part it. -/
theorem mem_filter_of_mem_splitOnP {l : List Char} {c : Char} (mem : l ∈ s.splitOnP p)
    (within : c ∈ l) : c ∈ s.filter fun c ↦ !p c := by
  induction s generalizing l with
  | nil => simp_all
  | cons d s ih =>
    rw [List.splitOnP_cons_eq_if_modifyHead] at mem
    split at mem
    next parts =>
      rw [List.filter_cons_of_neg (by simp [parts])]
      rcases List.mem_cons.mp mem with rfl | later
      · cases within
      · exact ih later within
    next kept =>
      rw [List.filter_cons_of_pos (by simp [kept])]
      cases parts : s.splitOnP p with
      | nil => simp [parts] at mem
      | cons first others =>
        rw [parts, List.modifyHead_cons] at mem
        rcases List.mem_cons.mp mem with rfl | later
        · rcases List.mem_cons.mp within with rfl | here
          · exact .head _
          · exact .tail d (ih (parts ▸ .head others) here)
        · exact .tail d (ih (parts ▸ .tail first later) within)

theorem mem_of_mem_splitOnP {l : List Char} {c : Char} (mem : l ∈ s.splitOnP p)
    (within : c ∈ l) : c ∈ s :=
  (List.mem_filter.mp (mem_filter_of_mem_splitOnP mem within)).1

/-- Any other character of a text is in one of the parts. -/
theorem exists_mem_splitOnP {c : Char} (mem : c ∈ s) (kept : p c = false) :
    ∃ l ∈ s.splitOnP p, c ∈ l := by
  induction s with
  | nil => cases mem
  | cons d s ih =>
    rw [List.splitOnP_cons_eq_if_modifyHead]
    split
    next parts =>
      have other : c ≠ d := fun e ↦ Bool.eq_false_iff.mp kept (e ▸ parts)
      obtain ⟨l, there, within⟩ := ih (List.mem_of_ne_of_mem other mem)
      exact ⟨l, .tail _ there, within⟩
    next =>
      cases parts : s.splitOnP p with
      | nil => exact absurd parts (List.splitOnP_ne_nil p s)
      | cons first others =>
        rw [List.modifyHead_cons]
        rcases List.mem_cons.mp mem with rfl | later
        · exact ⟨_, .head others, .head first⟩
        · obtain ⟨l, there, within⟩ := ih later
          rcases List.mem_cons.mp (parts ▸ there) with rfl | behind
          · exact ⟨_, .head others, .tail d within⟩
          · exact ⟨l, .tail _ behind, within⟩

end ContractScan.Text
