/-!
# Texts in UTF-8

Offsets into a text count the bytes of its UTF-8 form. A byte order mark may stand in front.
-/

namespace ContractScan.Text

/-- The length of the UTF-8 form in bytes. -/
def size (s : List Char) : Nat :=
  s.foldl (fun n c ↦ n + c.utf8Size) 0

private theorem foldl_size (s : List Char) (n : Nat) :
    s.foldl (fun n c ↦ n + c.utf8Size) n = n + size s := by
  induction s generalizing n with
  | nil => rfl
  | cons c s ih =>
    simp only [size, List.foldl_cons]
    rw [ih, ih (0 + c.utf8Size)]
    omega

/-- The empty text has no bytes. -/
theorem size_nil : size [] = 0 := rfl

/-- A character adds its own bytes. -/
theorem size_cons (c : Char) (s : List Char) : size (c :: s) = c.utf8Size + size s := by
  simp only [size, List.foldl_cons]
  rw [foldl_size, Nat.zero_add]
  rfl

/-- The size of two texts together is the sum of their sizes. -/
theorem size_append (s t : List Char) : size (s ++ t) = size s + size t := by
  induction s with
  | nil => simp [size_nil]
  | cons c s ih => simp [size_cons, ih, Nat.add_assoc]

/-- Only the empty text has no bytes. -/
theorem size_pos {s : List Char} (ne : s ≠ []) : 0 < size s := by
  cases s with
  | nil => exact absurd rfl ne
  | cons c s =>
    rw [size_cons]
    exact Nat.add_pos_left c.utf8Size_pos _

/-- The size is that of the string. -/
theorem size_toList (s : String) : size s.toList = s.utf8ByteSize := by
  have ofList (cs : List Char) : (String.ofList cs).utf8ByteSize = size cs := by
    induction cs with
    | nil => rfl
    | cons c cs ih =>
      rw [show c :: cs = [c] ++ cs from rfl, String.ofList_append, String.utf8ByteSize_append, ih,
        ← String.singleton_eq_ofList, String.utf8ByteSize_singleton, size_append, size_cons,
        size_nil, Nat.add_zero]
  rw [← ofList, String.ofList_toList]

/-- Between two parts of a text there is the beginning of a character, or the end of the text. -/
theorem isValid_size {text : String} {before s : List Char}
    (parts : text.toList = before ++ s) : String.Pos.Raw.IsValid text ⟨size before⟩ := by
  refine String.Pos.Raw.isValid_iff_exists_append.mpr
    ⟨String.ofList before, String.ofList s, ?_, ?_⟩
  · rw [← String.ofList_append, ← parts, String.ofList_toList]
  · rw [String.rawEndPos, ← size_toList, String.toList_ofList]

/-- The text without a byte order mark in front. -/
def withoutMark : List Char → List Char
  | '\ufeff' :: s => s
  | s => s

end ContractScan.Text
