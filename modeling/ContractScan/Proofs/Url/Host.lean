import ContractScan.Proofs.Text.Composed
import ContractScan.Proofs.Text.Trim
import ContractScan.Proofs.Traversal
import ContractScan.Url.Host

/-!
# Plain hosts

Most names of hosts stand for themselves: nothing in them is percent-encoded, replaced or composed,
no label is an encoded one, and they are no address in numbers. The host of a URL that is written
so is read as it stands (`Host.special?_of_isPlain`).
-/

namespace ContractScan.Url

variable {s : List Char}

theorem percentDecode_of_not_mem (h : '%' ∉ s) :
    percentDecode s = s.flatMap String.utf8EncodeChar := by
  fun_induction percentDecode s with
  | case1 | case2 => exact absurd (.head _) h
  | case3 c s _ ih => rw [List.flatMap_cons, ih fun mem ↦ h (.tail c mem)]
  | case4 => rfl

theorem utf8Decode?_flatMap (s : List Char) :
    utf8Decode? (s.flatMap String.utf8EncodeChar) = some s := by
  have valid := (String.ofList s).isValidUTF8
  have bytes : (s.flatMap String.utf8EncodeChar).toByteArray = (String.ofList s).toByteArray := rfl
  rw [utf8Decode?, bytes, String.fromUTF8?, dif_pos valid]
  exact congrArg some String.toList_ofList

namespace Idna

theorem goesRight_of_ascii {c : Char} (h : c.toNat < 128) : goesRight c = false := by
  rw [goesRight, direction, if_pos h]
  split
  · rfl
  · split <;> rfl

theorem mapped?_of_ascii {c : Char} (h : c.toNat < 128) : mapped? c = some [c.toLower] := if_pos h

theorem Label.ofText?_of_ascii (ascii : ∀ c ∈ s, c.toNat < 128)
    (plain : encodedStart.isPrefixOf s = false) : Label.ofText? s = some ⟨s, s⟩ := by
  have basic : s.all Punycode.isBasic = true :=
    List.all_eq_true.mpr fun c mem ↦ decide_eq_true (ascii c mem)
  rw [Label.ofText?, if_pos basic, plain]
  rfl

/-- The ASCII form of an ASCII name without encoded labels is the name in lower case. -/
theorem toAscii?_of_ascii (ascii : ∀ c ∈ s, c.toNat < 128)
    (labels : ∀ l ∈ (s.map Char.toLower).splitOn '.', encodedStart.isPrefixOf l = false) :
    toAscii? s = some (s.map Char.toLower) := by
  have lower : ∀ c ∈ s.map Char.toLower, c.toNat < 128 := by
    intro c mem
    obtain ⟨d, there, rfl⟩ := List.mem_map.mp mem
    exact Text.forall_ascii (P := fun d ↦ d.toLower.toNat < 128) (by decide) d (ascii d there)
  have text : s.mapM mapped? = some ((s.map Char.toLower).map fun c ↦ [c]) := by
    rw [List.map_map]
    exact mapM_eq_map fun c mem ↦ mapped?_of_ascii (ascii c mem)
  have composed : Text.composed (s.map Char.toLower) = s.map Char.toLower :=
    Text.composed_of_lt fun c mem ↦ Nat.lt_trans (lower c mem) (by decide)
  have inLabel : ∀ l ∈ (s.map Char.toLower).splitOn '.', ∀ c ∈ l, c.toNat < 128 := by
    intro l mem c here
    rw [List.splitOn_eq_splitOnP] at mem
    exact lower c (Text.mem_of_mem_splitOnP mem here)
  have read : ((s.map Char.toLower).splitOn '.').mapM Label.ofText? =
      some (((s.map Char.toLower).splitOn '.').map fun l ↦ ⟨l, l⟩) :=
    mapM_eq_map fun l mem ↦ Label.ofText?_of_ascii (inLabel l mem) (labels l mem)
  -- no character of ASCII makes the rule for directions apply
  have left : (((s.map Char.toLower).splitOn '.').map fun l ↦ (⟨l, l⟩ : Label)).any
      (·.meaning.any goesRight) = false := by
    simp only [List.any_eq_false, List.mem_map, Bool.not_eq_true]
    rintro _ ⟨l, mem, rfl⟩ c here
    exact goesRight_of_ascii (inLabel l mem c here)
  have joined : (((s.map Char.toLower).splitOn '.').map fun l ↦ (⟨l, l⟩ : Label)).map Label.ascii =
      (s.map Char.toLower).splitOn '.' := by
    rw [List.map_map]
    exact List.map_id _
  simp only [toAscii?, text, Option.bind_eq_bind, Option.bind_some, ← List.flatMap_def,
    List.flatMap_singleton', composed, read, left, joined]
  exact congrArg some (List.intercalate_splitOn '.')

end Idna

namespace Host

/-- A name of a host that is read as it stands. -/
structure IsPlain (s : List Char) : Prop where
  ne_nil : s ≠ []
  /-- All in lower case. -/
  ascii : ∀ c ∈ s, c.toNat < 128 ∧ c.toLower = c
  allowed : ∀ c ∈ s, forbiddenInDomain c = false
  /-- No label is an encoded one. -/
  labels : ∀ l ∈ s.splitOn '.', Idna.encodedStart.isPrefixOf l = false
  noNumber : endsInNumber s = false

theorem isPlain_iff (s : List Char) : IsPlain s ↔
    (!s.isEmpty && s.all (fun c ↦ c.toNat < 128 && c.toLower == c) &&
      s.all (fun c ↦ !forbiddenInDomain c) &&
      (s.splitOn '.').all (fun l ↦ !Idna.encodedStart.isPrefixOf l) && !endsInNumber s) = true := by
  simp only [Bool.and_eq_true, Bool.not_eq_true', List.all_eq_true, decide_eq_true_eq,
    beq_iff_eq, List.isEmpty_eq_false_iff]
  exact ⟨fun ⟨h, a, f, l, n⟩ ↦ ⟨⟨⟨⟨h, a⟩, f⟩, l⟩, n⟩, fun ⟨⟨⟨⟨h, a⟩, f⟩, l⟩, n⟩ ↦ ⟨h, a, f, l, n⟩⟩

instance (s : List Char) : Decidable (IsPlain s) := decidable_of_iff' _ (isPlain_iff s)

theorem IsPlain.not_mem (h : IsPlain s) {c : Char} (forbidden : forbiddenInDomain c = true) :
    c ∉ s := by
  intro mem
  rw [h.allowed c mem] at forbidden
  cases forbidden

theorem IsPlain.map_toLower (h : IsPlain s) : s.map Char.toLower = s := by
  rw [List.map_congr_left fun c mem ↦ (h.ascii c mem).2, List.map_id']

/-- A plain name is the domain that it spells. -/
theorem special?_of_isPlain (h : IsPlain s) : special? s = some (.domain s) := by
  have brackets : bracketed? s = none := by
    unfold bracketed?
    split
    · exact absurd (.head _) (h.not_mem (c := '[') (by decide))
    · rfl
  have name : Idna.toAscii? s = some s := by
    rw [Idna.toAscii?_of_ascii fun c mem ↦ (h.ascii c mem).1]
    · rw [h.map_toLower]
    · rw [h.map_toLower]
      exact h.labels
  have allowed : (s.isEmpty || s.any forbiddenInDomain) = false := by
    rw [Bool.or_eq_false_iff, List.isEmpty_eq_false_iff, List.any_eq_false]
    exact ⟨h.ne_nil, fun c mem ↦ Bool.eq_false_iff.mp (h.allowed c mem)⟩
  rw [special?, brackets]
  simp only [percentDecode_of_not_mem (h.not_mem (c := '%') (by decide)), utf8Decode?_flatMap, name,
    Option.bind_eq_bind, Option.bind_some, allowed, h.noNumber]
  rfl

end Host

end ContractScan.Url
