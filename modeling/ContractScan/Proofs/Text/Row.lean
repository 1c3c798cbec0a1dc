import ContractScan.Text.Row
import Mathlib.Data.List.Forall2

/-!
# What stands in a table

What holds of the words of a table is tried out on its characters, row by row
(`forall_rowPoints`). What holds of every number in it is tried out in one pass
(`forall_rowNumbers`).
-/

namespace ContractScan.Text

/-- One more digit of a number that is read from the first digit on. -/
def withDigit (n : Nat) (c : Char) : Nat := n * 16 + digitValue 16 c

/-- The code points of a word, read from the first digit on. -/
def wordPointsFromLeft (w : List Char) : List Nat :=
  if w = ['-'] then [] else (w.splitOn '+').map fun ds ↦ ds.foldl withDigit 0

theorem wordPoints_eq (w : List Char) : wordPoints w = wordPointsFromLeft w := by
  have number : numeral 16 = fun ds ↦ ds.foldl withDigit 0 := funext (numeral_eq_foldl 16)
  rw [wordPoints, wordPointsFromLeft, number]

/-! ### The characters of a table -/

/-- The rows are these rows of characters. -/
def Spelled : List (Nat × String) → List (List Char) → Prop :=
  List.Forall₂ fun row cs ↦ row.2 = String.ofList cs

section Spelled

variable {n : Nat} {row : String} {cs : List Char} {rows : List (Nat × String)}
variable {css : List (List Char)}

theorem spelled_cons (text : row = String.ofList cs) (rest : Spelled rows css) :
    Spelled ((n, row) :: rows) (cs :: css) :=
  .cons text rest

theorem spelled_nil : Spelled [] [] := .nil

theorem Spelled.forall_toList {Q : List Char → Prop} (spelled : Spelled rows css)
    (h : ∀ cs ∈ css, Q cs) : ∀ row ∈ rows, Q row.2.toList := by
  induction spelled with
  | nil => exact List.forall_mem_nil _
  | @cons row cs rows css text _ ih =>
    obtain ⟨first, rest⟩ := List.forall_mem_cons.mp h
    refine List.forall_mem_cons.mpr ⟨?_, ih rest⟩
    rwa [text, String.toList_ofList]

/-- What holds of the words that are spelled holds of those that the table is read to. -/
theorem forall_rowPoints {P : List Nat → Bool}
    (h : ∃ css, Spelled rows css ∧
      css.all (fun cs ↦ (cs.splitOn ' ').all fun w ↦ P (wordPointsFromLeft w)) = true) :
    ∀ row ∈ rows, ∀ w ∈ rowPoints row.2, P w = true := by
  obtain ⟨css, spelled, all⟩ := h
  intro row listed w mem
  obtain ⟨word, there, rfl⟩ := List.mem_map.mp mem
  have words := spelled.forall_toList (List.all_eq_true.mp all) row listed
  rw [wordPoints_eq]
  exact List.all_eq_true.mp words word there

end Spelled

/-! ### The numbers of a table -/

/-- A plus sign or a space. -/
def endsNumber (c : Char) : Bool := c == ' ' || c == '+'

/-- The numbers of a row pass the test, if the digits before it make `n`. -/
def allNumbers (P : Nat → Bool) (n : Nat) : List Char → Bool
  | [] => P n
  | c :: cs => bif endsNumber c then P n && allNumbers P 0 cs else allNumbers P (withDigit n c) cs

theorem flatMap_splitOnP (p q : Char → Bool) (cs : List Char) :
    (cs.splitOnP p).flatMap (List.splitOnP q) = cs.splitOnP fun c ↦ p c || q c := by
  induction cs with
  | nil => simp
  | cons c cs ih =>
    obtain ⟨w, ws, words⟩ := List.exists_cons_of_ne_nil (List.splitOnP_ne_nil p cs)
    obtain ⟨ds, dss, pieces⟩ := List.exists_cons_of_ne_nil (List.splitOnP_ne_nil q w)
    rw [List.splitOnP_cons_eq_if_modifyHead, List.splitOnP_cons_eq_if_modifyHead, ← ih, words]
    cases first : p c with
    | true => simp
    | false =>
      cases second : q c with
      | true => simp [List.splitOnP_cons_eq_if_modifyHead, second]
      | false => simp [List.splitOnP_cons_eq_if_modifyHead, second, pieces]

theorem allNumbers_eq_and (P : Nat → Bool) (cs : List Char) :
    ∀ n ds dss, cs.splitOnP endsNumber = ds :: dss →
      allNumbers P n cs =
        (P (ds.foldl withDigit n) && dss.all fun ds ↦ P (ds.foldl withDigit 0)) := by
  induction cs with
  | nil =>
    intro n ds dss pieces
    cases pieces
    exact (Bool.and_true _).symm
  | cons c cs ih =>
    intro n ds dss pieces
    obtain ⟨ds', dss', rest⟩ := List.exists_cons_of_ne_nil (List.splitOnP_ne_nil endsNumber cs)
    rw [List.splitOnP_cons_eq_if_modifyHead, rest] at pieces
    cases ends : endsNumber c with
    | true =>
      rw [if_pos ends] at pieces
      cases pieces
      rw [allNumbers, ends, cond_true, ih 0 ds' _ rest]
      rfl
    | false =>
      rw [if_neg (Bool.eq_false_iff.mp ends)] at pieces
      cases pieces
      rw [allNumbers, ends, cond_false, ih _ ds' _ rest]
      rfl

/-- One pass over the row tries out what stands between the signs that end a number. -/
theorem allNumbers_eq (P : Nat → Bool) (cs : List Char) :
    allNumbers P 0 cs = (cs.splitOnP endsNumber).all fun ds ↦ P (ds.foldl withDigit 0) := by
  obtain ⟨ds, dss, pieces⟩ := List.exists_cons_of_ne_nil (List.splitOnP_ne_nil endsNumber cs)
  rw [allNumbers_eq_and P cs 0 ds dss pieces, pieces, List.all_cons]

/-- What holds of the numbers that are spelled holds of those that the table is read to. -/
theorem forall_rowNumbers {P : Nat → Bool} {rows : List (Nat × String)}
    (h : ∃ css, Spelled rows css ∧ css.all (allNumbers P 0) = true) :
    ∀ row ∈ rows, ∀ w ∈ rowPoints row.2, ∀ n ∈ w, P n = true := by
  obtain ⟨css, spelled, all⟩ := h
  intro row listed w mem n within
  obtain ⟨word, there, rfl⟩ := List.mem_map.mp mem
  have numbers := spelled.forall_toList (List.all_eq_true.mp all) row listed
  rw [allNumbers_eq] at numbers
  rw [wordPoints_eq, wordPointsFromLeft] at within
  split at within
  next => cases within
  next =>
    obtain ⟨digits, piece, rfl⟩ := List.mem_map.mp within
    refine List.all_eq_true.mp numbers digits ?_
    rw [List.splitOn_eq_splitOnP] at there piece
    exact flatMap_splitOnP _ _ _ ▸ List.mem_flatMap.mpr ⟨word, there, piece⟩

end ContractScan.Text
