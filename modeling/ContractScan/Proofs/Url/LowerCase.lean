import ContractScan.Proofs.Url.Host

/-!
# Hosts in lower case

Nothing that a character of a name is replaced by is an upper-case letter of ASCII, nor does such a
letter come of composing characters to others of ASCII. So the host of a URL is in lower case,
unless it has an encoded label, which has hyphens in it (`Host.map_toLower_render`).
-/

namespace ContractScan.Url

variable {s : List Char} {c : Char}

namespace Idna

/-- The code point of a character that is no upper-case letter of ASCII. -/
def isLower (n : Nat) : Bool := decide (n < 'A'.toNat) || decide ('Z'.toNat < n)

-- the table has more rows than the default depth allows to read one by one
set_option maxRecDepth 20000 in
private theorem isLower_replacedRows :
    ∀ row ∈ replacedRows, ∀ w ∈ Text.rowPoints row.2, ∀ n ∈ w, isLower n = true := by
  apply Text.forall_rowNumbers
  apply Exists.intro
  apply And.intro
  · dsimp only [replacedRows]
    repeat apply Text.spelled_cons rfl
    exact Text.spelled_nil
  · decide +kernel

theorem toLower_ofNat {n : Nat} (lower : n < 'A'.toNat ∨ 'Z'.toNat < n) :
    (Char.ofNat n).toLower = Char.ofNat n := by
  refine dif_neg fun upper ↦ ?_
  have first : 'A'.toNat ≤ (Char.ofNat n).toNat := upper.1
  have last : (Char.ofNat n).toNat ≤ 'Z'.toNat := upper.2
  by_cases valid : n.isValidChar
  · rw [Text.toNat_ofNat valid] at first last
    omega
  · have none : (Char.ofNat n).toNat = 0 := by rw [Char.ofNat, dif_neg valid]; rfl
    rw [none] at first
    exact absurd first (by decide)

theorem toLower_of_not_ascii (above : 128 ≤ c.toNat) : c.toLower = c := by
  rcases Text.toLower_eq_or c with same | ⟨letter, -⟩
  · exact same
  · have alphanum : c.isAlphanum = true := by rw [Char.isAlphanum, letter, Bool.true_or]
    exact absurd (Text.lt_of_isAlphanum alphanum) (Nat.not_lt.mpr above)

/-- What a character is replaced by has no upper-case letters of ASCII. -/
theorem toLower_of_mem_replacement? {cs : List Char} (found : replacement? c = some cs) :
    ∀ d ∈ cs, d.toLower = d := by
  obtain ⟨⟨first, count, words⟩, row, word⟩ := Option.bind_eq_some_iff.mp found
  obtain ⟨w, there, read⟩ := Option.bind_eq_some_iff.mp word
  cases read
  obtain ⟨r, listed, spelled⟩ := List.mem_map.mp (List.mem_of_find?_eq_some row)
  cases spelled
  intro d mem
  obtain ⟨n, within, rfl⟩ := List.mem_map.mp mem
  have lower := isLower_replacedRows r listed w (List.mem_of_getElem? there) n within
  rw [isLower, Bool.or_eq_true, decide_eq_true_eq, decide_eq_true_eq] at lower
  exact toLower_ofNat lower

/-- What a character becomes has no upper-case letters of ASCII. -/
theorem toLower_of_mem_mapped? {cs : List Char} (found : mapped? c = some cs) :
    ∀ d ∈ cs, d.toLower = d := by
  rw [mapped?] at found
  split_ifs at found with ascii
  · cases found
    exact List.forall_mem_singleton.mpr
      (Text.forall_ascii (P := fun c ↦ c.toLower.toLower = c.toLower) (by decide) c ascii)
  · cases replaced : replacement? c with
    | some ds =>
      rw [replaced] at found
      cases found
      exact toLower_of_mem_replacement? replaced
    | none =>
      rw [replaced] at found
      cases found
      exact List.forall_mem_singleton.mpr (toLower_of_not_ascii (Nat.le_of_not_lt ascii))

/-- A label without a hyphen stands in the ASCII form as it is written. -/
theorem Label.ascii_eq_of_not_mem {l : Label} (read : ofText? s = some l) (plain : '-' ∉ l.ascii) :
    l.ascii = s ∧ ∀ c ∈ s, c.toNat < 128 := by
  have hyphen (t : List Char) : '-' ∈ encodedStart ++ t :=
    List.mem_append_left t (by decide)
  rw [ofText?] at read
  split_ifs at read with basic encoded fits
  · simp only [ofEncoded?, Option.bind_eq_bind] at read
    split at read
    · cases read
    · obtain ⟨meaning, -, read⟩ := Option.bind_eq_some_iff.mp read
      split at read
      · cases read
      · cases read
        exact absurd (hyphen _) plain
  · cases read
    exact ⟨rfl, fun c mem ↦ of_decide_eq_true (List.all_eq_true.mp basic c mem)⟩
  · cases read
    exact absurd (hyphen _) plain

theorem mem_intercalate {ls : List (List Char)} {l : List Char} {sep : List Char} (there : l ∈ ls)
    (mem : c ∈ l) : c ∈ sep.intercalate ls := by
  obtain ⟨i, at_i⟩ := List.mem_iff_getElem?.mp there
  have still : l ∈ ls.intersperse sep :=
    List.mem_of_getElem? (List.getElem?_intersperse_two_mul.trans at_i)
  exact List.mem_flatten.mpr ⟨l, still, mem⟩

/-- The ASCII form of a name is in lower case, unless it has a hyphen. -/
theorem toLower_of_mem_toAscii? {name : List Char} (found : toAscii? s = some name)
    (plain : '-' ∉ name) : ∀ c ∈ name, c.toLower = c := by
  obtain ⟨text, mapped, found⟩ := Option.bind_eq_some_iff.mp found
  obtain ⟨labels, read, found⟩ := Option.bind_eq_some_iff.mp found
  split at found
  next => cases found
  next =>
    cases found
    -- every label is one of ASCII and stands in the name as it is written
    have each : ∀ l ∈ (Text.composed text.flatten).splitOn '.', ∀ x, Label.ofText? l = some x →
        x.ascii = l ∧ ∀ c ∈ l, c.toNat < 128 := by
      intro l mem x label
      obtain ⟨y, there, same⟩ := exists_of_mem_of_mapM read mem
      cases label.symm.trans same
      refine Label.ascii_eq_of_not_mem label fun hyphen ↦ plain ?_
      exact mem_intercalate (List.mem_map_of_mem there) hyphen
    have written : ['.'].intercalate (labels.map Label.ascii) = Text.composed text.flatten := by
      rw [map_eq_map_of_mapM (g := id) read fun l mem x label ↦ (each l mem x label).1, List.map_id,
        List.intercalate_splitOn]
    have ascii : ∀ c ∈ Text.composed text.flatten, c.toNat < Text.leastComposed := by
      intro c mem
      have small : (128 : Nat) ≤ Text.leastComposed := by decide
      by_cases dot : c = '.'
      · exact dot ▸ by decide
      · obtain ⟨l, there, within⟩ :=
          Text.exists_mem_splitOnP mem (p := (· == '.')) (beq_false_of_ne dot)
        rw [← List.splitOn_eq_splitOnP] at there
        obtain ⟨x, -, label⟩ := exists_of_mem_of_mapM read there
        exact Nat.lt_of_lt_of_le ((each l there x label).2 c within) small
    have apart : Text.composed text.flatten = text.flatten :=
      Text.composed_of_lt (Text.lt_of_composed ascii)
    rw [written, apart]
    intro c mem
    obtain ⟨cs, there, within⟩ := List.mem_flatten.mp mem
    obtain ⟨d, -, becomes⟩ := exists_of_mem_mapM mapped there
    exact toLower_of_mem_mapped? becomes c within

end Idna

namespace Host

theorem toLower_of_mem_renderIpv4 {a : Nat} (mem : c ∈ renderIpv4 a) : c.toLower = c := by
  have digit {n : Nat} (mem : c ∈ Nat.toDigits 10 n) : c.toLower = c := by
    have digit := Nat.isDigit_of_mem_toDigits (by decide) (by decide) mem
    refine Text.forall_alphanum (P := fun c ↦ c.isDigit = true → c.toLower = c) (by decide) ?_ digit
    rw [Char.isAlphanum, digit, Bool.or_true]
  have dot (here : c = '.') : c.toLower = c := here ▸ by decide
  simp only [renderIpv4, List.map_cons, List.map_nil, List.intercalate_cons_cons,
    List.intercalate_singleton, List.mem_append, List.mem_singleton] at mem
  rcases mem with (here | here) | (here | here) | (here | here) | here <;>
    first | exact digit here | exact dot here

/-- The host of a page is in lower case, if it has no hyphen and is no address in brackets. -/
theorem map_toLower_render {host : Host} (read : special? s = some host)
    (noBracket : host.render.head? ≠ some '[') (noHyphen : '-' ∉ host.render) :
    host.render.map Char.toLower = host.render := by
  have same (all : ∀ c ∈ host.render, c.toLower = c) :
      host.render.map Char.toLower = host.render := by
    rw [List.map_congr_left all, List.map_id']
  rw [special?] at read
  split at read
  next found =>
    unfold bracketed? at found
    split at found
    next =>
      rw [read] at found
      split at found
      · obtain ⟨ps, -, rfl⟩ := Option.map_eq_some_iff.mp (Option.some.inj found)
        exact absurd rfl noBracket
      · cases found
    next => cases found
  next =>
    obtain ⟨decoded, -, read⟩ := Option.bind_eq_some_iff.mp read
    obtain ⟨name, ascii, read⟩ := Option.bind_eq_some_iff.mp read
    by_cases forbidden : (name.isEmpty || name.any forbiddenInDomain) = true
    · rw [if_pos forbidden] at read
      cases read
    · rw [if_neg forbidden] at read
      split at read
      · obtain ⟨a, -, rfl⟩ := Option.map_eq_some_iff.mp read
        exact same fun c mem ↦ toLower_of_mem_renderIpv4 mem
      · cases read
        exact same (Idna.toLower_of_mem_toAscii? ascii noHyphen)

end Host

end ContractScan.Url
