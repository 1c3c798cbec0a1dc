import ContractScan.Proofs.Text.LetterCase
import ContractScan.Url.Path

/-!
# Plain paths

Segments of letters and digits stand neither for staying nor for going up, and nothing of them is
encoded. A path of a page of the web that has only such segments is read segment by segment
(`Path.read_of_alphanum`).
-/

namespace ContractScan.Url

variable {s : List Char} {path : List (List Char)}

namespace Path

theorem dropBreaks_append (s t : List Char) : dropBreaks (s ++ t) = dropBreaks s ++ dropBreaks t :=
  List.filter_append s t

theorem dropBreaks_of_alphanum (h : s.all Char.isAlphanum = true) : dropBreaks s = s := by
  refine List.filter_eq_self.mpr fun c mem ↦ ?_
  exact Text.forall_alphanum (P := fun c ↦ (!isBreak c) = true) (by decide)
    (List.all_eq_true.mp h c mem)

theorem percentEncode_of_alphanum (h : s.all Char.isAlphanum = true) :
    percentEncode pathSet s = s := by
  induction s with
  | nil => rfl
  | cons c s ih =>
    rw [List.all_cons, Bool.and_eq_true] at h
    have kept : pathSet c = false :=
      Text.forall_alphanum (P := fun c ↦ pathSet c = false) (by decide) h.1
    rw [percentEncode, List.flatMap_cons, percentEncodeChar, kept]
    exact congrArg (c :: ·) (ih h.2)

private theorem no_dots {dots : List String} (h : s.all Char.isAlphanum = true)
    (marked : dots.all (fun d ↦ d.toList.any fun c ↦ !c.isAlphanum) = true) :
    dots.contains (String.ofList (s.map Char.toLower)) = false := by
  rw [Bool.eq_false_iff, ne_eq, List.contains_iff_mem]
  intro mem
  obtain ⟨c, there, mark⟩ := List.any_eq_true.mp (List.all_eq_true.mp marked _ mem)
  rw [String.toList_ofList] at there
  obtain ⟨d, here, rfl⟩ := List.mem_map.mp there
  have alphanum : d.toLower.isAlphanum = true :=
    Text.forall_alphanum (P := fun d ↦ d.toLower.isAlphanum = true) (by decide)
      (List.all_eq_true.mp h d here)
  rw [alphanum] at mark
  cases mark

theorem step_of_alphanum (h : s.all Char.isAlphanum = true) (last : Bool) (t : Trail) :
    t.step .web last s = t.add s := by
  have double : isDoubleDot s = false := no_dots h (by decide)
  have single : isSingleDot s = false := no_dots h (by decide)
  simp only [Trail.step, dropBreaks_of_alphanum h, double, single, percentEncode_of_alphanum h]
  rfl

theorem done_walk_of_alphanum (h : ∀ p ∈ path, p.all Char.isAlphanum = true) (t : Trail) :
    (t.walk .web path).done = path.reverse ++ t.done := by
  induction path generalizing t with
  | nil => rfl
  | cons p path ih =>
    rw [Trail.walk, step_of_alphanum (h p (.head path)), ih fun q mem ↦ h q (.tail p mem),
      List.reverse_cons, List.append_assoc]
    rfl

theorem isSlash_of_alphanum {c : Char} (h : c.isAlphanum = true) : isSlash .web c = false :=
  Text.forall_alphanum (P := fun c ↦ isSlash .web c = false) (by decide) h

theorem splitOnP_slash (first : s.all Char.isAlphanum = true)
    (h : ∀ p ∈ path, p.all Char.isAlphanum = true) :
    (s ++ path.flatMap fun p ↦ '/' :: p).splitOnP (isSlash .web) = s :: path := by
  have within : ∀ c ∈ s, isSlash .web c = false := fun c mem ↦
    isSlash_of_alphanum (List.all_eq_true.mp first c mem)
  induction path generalizing s with
  | nil => rw [List.flatMap_nil, List.append_nil, List.splitOnP_eq_singleton within]
  | cons p path ih =>
    have later := h p (.head path)
    rw [List.flatMap_cons, List.cons_append,
      List.splitOnP_append_cons_of_forall_mem within '/' (by decide), ih later]
    · exact fun q mem ↦ h q (.tail p mem)
    · exact fun c mem ↦ isSlash_of_alphanum (List.all_eq_true.mp later c mem)

/-- A path of letters and digits is read segment by segment. -/
theorem read_of_alphanum (ne : path ≠ []) (h : ∀ p ∈ path, p.all Char.isAlphanum = true) :
    (read .web (path.flatMap fun p ↦ '/' :: p)).1 = .segments path := by
  cases path with
  | nil => exact absurd rfl ne
  | cons p path =>
    have slash : isSlash .web '/' = true := by decide
    have parts := splitOnP_slash (h p (.head path)) fun q mem ↦ h q (.tail p mem)
    simp only [List.flatMap_cons, List.cons_append, read, slash, if_true, parts,
      done_walk_of_alphanum h, List.append_nil, List.reverse_reverse, reduceCtorEq, if_false]

end Path

end ContractScan.Url
