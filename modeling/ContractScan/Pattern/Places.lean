import ContractScan.Text.Utf8

/-!
# Places of a text

A place stands before, between or after the characters of a text. It is named by the number of
characters after it, so that going on in a text is counting down, and for each place its offset in
bytes is kept. `Places.after` is the view of a place as the text that begins there.
-/

namespace ContractScan

/-- A text by its places. -/
structure Places where
  /-- The characters, the last one first. -/
  chars : Array Char
  /-- The byte offsets of the places, the last one first. -/
  offsets : Array Nat
deriving Repr

namespace Places

/-- The byte offsets of the places of a text that begins at `pos`. -/
def offsetsFrom (pos : Nat) : List Char → List Nat
  | [] => [pos]
  | c :: s => pos :: offsetsFrom (pos + c.utf8Size) s

/-- The places of a text. -/
def ofList (s : List Char) : Places where
  chars := s.reverse.toArray
  offsets := (offsetsFrom 0 s).reverse.toArray

/-- The number of characters; there is one place more. -/
def size (t : Places) : Nat := t.chars.size

/-- The character between the places `n + 1` and `n`. -/
@[inline] def char (t : Places) (n : Nat) : Char := t.chars.getD n ' '

/-- The byte offset of a place. -/
def offset (t : Places) (n : Nat) : Nat := t.offsets.getD n 0

/-- The text that begins at a place. -/
def after (t : Places) : Nat → List Char
  | 0 => []
  | n + 1 => t.char n :: t.after n

/-- A value for each place. -/
@[inline] def tabulate (t : Places) (f : Nat → α) : Array α :=
  Array.ofFn fun i : Fin (t.size + 1) ↦ f i

theorem size_ofList (s : List Char) : (ofList s).size = s.length := by
  simp [size, ofList]

theorem length_after (t : Places) (n : Nat) : (t.after n).length = n := by
  induction n with
  | zero => rfl
  | succ n ih => simp [after, ih]

theorem getElem?_tabulate (t : Places) (f : Nat → α) {n : Nat} (h : n ≤ t.size) :
    (t.tabulate f)[n]? = some (f n) := by
  have lt : n < t.size + 1 := Nat.lt_succ_of_le h
  simp [tabulate, lt]

theorem char_ofList (s : List Char) (n : Nat) : (ofList s).char n = s.reverse.getD n ' ' := by
  simp [char, ofList, Array.getD_eq_getD_getElem?]

/-- A place of a text is the text's last part of that length. -/
theorem after_ofList (r s : List Char) : (ofList (r ++ s)).after s.length = s := by
  induction s generalizing r with
  | nil => rfl
  | cons c s ih =>
    have tail := ih (r ++ [c])
    rw [List.append_assoc, List.singleton_append] at tail
    rw [List.length_cons, after, tail, char_ofList]
    simp

/-- All of the text begins at its first place. -/
theorem after_length (s : List Char) : (ofList s).after s.length = s := after_ofList [] s

theorem length_offsetsFrom (pos : Nat) (s : List Char) :
    (offsetsFrom pos s).length = s.length + 1 := by
  induction s generalizing pos with
  | nil => rfl
  | cons c s ih => simp [offsetsFrom, ih]

theorem getElem?_offsetsFrom (pos : Nat) (r s : List Char) :
    (offsetsFrom pos (r ++ s)).reverse[s.length]? = some (pos + Text.size r) := by
  induction r generalizing pos with
  | nil =>
    cases s with
    | nil => rfl
    | cons c s => simp [offsetsFrom, length_offsetsFrom, Text.size_nil]
  | cons c r ih =>
    simp only [List.cons_append, offsetsFrom, List.reverse_cons]
    have lt : s.length < (offsetsFrom (pos + c.utf8Size) (r ++ s)).reverse.length := by
      rw [List.length_reverse, length_offsetsFrom, List.length_append]
      omega
    rw [List.getElem?_append_left lt, ih, Text.size_cons, Nat.add_assoc]

/-- The offset of a place is the size of the text before it. -/
theorem offset_ofList (r s : List Char) : (ofList (r ++ s)).offset s.length = Text.size r := by
  have h := getElem?_offsetsFrom 0 r s
  simp only [offset, ofList, Array.getD_eq_getD_getElem?, List.getElem?_toArray, h]
  simp

end Places

end ContractScan
