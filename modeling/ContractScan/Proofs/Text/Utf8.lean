import ContractScan.Text.Utf8

/-!
# Characters and their bytes

A character below 128 is one byte, and no other character has that byte in it
(`mem_utf8EncodeChar_iff`). So such characters are found in a text among its bytes
(`mem_toByteArray_iff`).
-/

namespace ContractScan.Text

/-- The bytes of a text are those of its characters. -/
theorem toList_toByteArray (text : String) :
    text.toByteArray.data.toList = text.toList.flatMap String.utf8EncodeChar := by
  rw [← List.toList_data_toByteArray (l := text.toList.flatMap _)]
  exact congrArg (fun s ↦ s.toByteArray.data.toList) text.ofList_toList.symm

section Ascii

variable {c d : Char} (ascii : d.toNat < 128)

include ascii

theorem utf8EncodeChar_of_ascii : String.utf8EncodeChar d = [d.toUInt8] := by
  rw [String.utf8EncodeChar]
  exact if_pos (Nat.le_of_lt_succ ascii)

/-- The bytes of longer characters are all from 128 up. -/
theorem mem_utf8EncodeChar_iff : d.toUInt8 ∈ String.utf8EncodeChar c ↔ c = d := by
  constructor
  · intro mem
    have byte (n : Nat) : d.toUInt8 = UInt8.ofNat n ↔ n % 256 = d.toNat := by
      have value : d.toUInt8 = UInt8.ofNat d.toNat := rfl
      rw [value, ← UInt8.toNat_inj, UInt8.toNat_ofNat', UInt8.toNat_ofNat']
      omega
    have low : c.val.toNat = d.toNat := by
      rw [String.utf8EncodeChar] at mem
      generalize c.val.toNat = n at mem
      repeat' split at mem
      all_goals
        simp only [List.mem_cons, List.not_mem_nil, or_false, byte] at mem
        omega
    exact Char.toNat_inj.mp low
  · rintro rfl
    rw [utf8EncodeChar_of_ascii ascii]
    exact List.mem_singleton_self _

/-- A character below 128 is in a text just when its byte is. -/
theorem mem_toByteArray_iff (text : String) :
    d.toUInt8 ∈ text.toByteArray.data.toList ↔ d ∈ text.toList := by
  rw [toList_toByteArray, List.mem_flatMap]
  simp only [mem_utf8EncodeChar_iff ascii, exists_eq_right]

end Ascii

end ContractScan.Text
