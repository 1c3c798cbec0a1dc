import ContractScan.Proofs.Text.Trim
import ContractScan.Proofs.Url.Path
import ContractScan.Url.Basic

/-!
# Where the host of a page stands

The host of a page of the web ends where its path, its query or its fragment begins. What follows
then is no part of it, whatever it is, and does not keep the URL from being read
(`parse?_append`).
-/

namespace ContractScan.Url

variable {scheme h s t : List Char}

/-- A character of ASCII that is seen and ends no path. -/
def isVisible (c : Char) : Bool := c.toNat < 128 && 0x20 < c.toNat && c != '?' && c != '#'

theorem isVisible_iff {c : Char} :
    isVisible c = true ↔ c.toNat < 128 ∧ 0x20 < c.toNat ∧ c ≠ '?' ∧ c ≠ '#' := by
  simp [isVisible, and_assoc]

theorem isBreak_of_isVisible {c : Char} (h : isVisible c = true) : isBreak c = false :=
  Text.forall_ascii (P := fun c ↦ isVisible c = true → isBreak c = false) (by decide) c
    (isVisible_iff.mp h).1 h

theorem isBlank_of_isVisible {c : Char} (h : isVisible c = true) : Text.isBlank c = false :=
  Text.forall_ascii (P := fun c ↦ isVisible c = true → Text.isBlank c = false) (by decide) c
    (isVisible_iff.mp h).1 h

theorem not_mem_of_isVisible (visible : ∀ c ∈ s, isVisible c = true) : '?' ∉ s ∧ '#' ∉ s :=
  ⟨fun mem ↦ (isVisible_iff.mp (visible _ mem)).2.2.1 rfl,
    fun mem ↦ (isVisible_iff.mp (visible _ mem)).2.2.2 rfl⟩

theorem dropBreaks_of_isVisible (visible : ∀ c ∈ s, isVisible c = true) :
    Path.dropBreaks s = s :=
  List.filter_eq_self.mpr fun c mem ↦ by rw [isBreak_of_isVisible (visible c mem)]; rfl

/-- The characters that end a host, or tell it from what is around it. -/
def hostMarks : List Char := ['/', '\\', '@', ':', '[', ']']

/-- A text that is the host as a whole where it stands behind the slashes. -/
structure IsHostText (h : List Char) : Prop where
  ne_nil : h ≠ []
  visible : ∀ c ∈ h, isVisible c = true
  unmarked : ∀ c ∈ h, c ∉ hostMarks

/-- What may follow a host: nothing, or what begins like a path, a query or a fragment. -/
def endsHost (s : List Char) : Prop := ∀ c ∈ s.head?, c = '/' ∨ c = '?' ∨ c = '#'

theorem endsHost_nil : endsHost [] := fun _ head ↦ nomatch head

theorem IsHostText.isSlash (text : IsHostText h) {c : Char} (mem : c ∈ h) :
    isSlash .web c = false := by
  have slash : c ≠ '/' := fun e ↦ text.unmarked c mem (e ▸ by decide)
  have back : c ≠ '\\' := fun e ↦ text.unmarked c mem (e ▸ by decide)
  simp [Url.isSlash, slash, back]

/-! ### Trimming and leaving out -/

/-- The characters that count for something, without those that are trimmed from the end. -/
def cleaned (s : List Char) : List Char :=
  Path.dropBreaks (s.rdropWhile fun c ↦ decide (c.toNat ≤ 0x20))

theorem cleaned_append (visible : ∀ c ∈ s, isVisible c = true) :
    cleaned (s ++ t) = s ++ cleaned t := by
  have kept : ∀ c ∈ s, decide (c.toNat ≤ 0x20) = false := fun c mem ↦
    decide_eq_false (Nat.not_le.mpr (isVisible_iff.mp (visible c mem)).2.1)
  rw [cleaned, Text.rdropWhile_append kept, Path.dropBreaks_append, dropBreaks_of_isVisible visible,
    cleaned]

/-- A text still begins like a path, a query or a fragment if it did so before. -/
theorem forall_head_cleaned {P : Char → Prop} (first : ∀ c ∈ s.head?, P c)
    (counts : ∀ c, P c → isBreak c = false) : ∀ c ∈ (cleaned s).head?, P c := by
  have kept := Text.forall_head_rdropWhile first fun c ↦ decide (c.toNat ≤ 0x20)
  rw [cleaned]
  revert kept
  cases s.rdropWhile fun c ↦ decide (c.toNat ≤ 0x20) with
  | nil => exact id
  | cons c t =>
    intro kept
    rw [Path.dropBreaks, List.filter_cons_of_pos (by rw [counts c (kept c rfl)]; rfl)]
    exact kept

theorem endsHost_cleaned (ends : endsHost s) : endsHost (cleaned s) :=
  forall_head_cleaned ends (by rintro c (rfl | rfl | rfl) <;> decide)

/-! ### Parts -/

theorem partsOf_append {k : Kind} (here : '?' ∉ s ∧ '#' ∉ s) :
    partsOf k (s ++ t) = { partsOf k t with front := s ++ (partsOf k t).front } := by
  have question : ∀ c ∈ s, decide (c ≠ '?') = true :=
    fun c mem ↦ decide_eq_true fun e ↦ here.1 (e ▸ mem)
  have hash : ∀ c ∈ s, decide (c ≠ '#') = true :=
    fun c mem ↦ decide_eq_true fun e ↦ here.2 (e ▸ mem)
  simp only [partsOf, List.span_eq_takeWhile_dropWhile, List.takeWhile_append_of_pos hash,
    List.dropWhile_append_of_pos hash, List.takeWhile_append_of_pos question,
    List.dropWhile_append_of_pos question]

theorem isSlash_front_partsOf (ends : endsHost t) :
    ∀ c ∈ (partsOf .web t).front.head?, isSlash .web c = true := by
  cases t with
  | nil => exact fun c head ↦ nomatch head
  | cons d t =>
    rcases ends d rfl with rfl | rfl | rfl
    · rw [← List.singleton_append, partsOf_append (by decide)]
      rintro c ⟨⟩
      decide
    · simp [partsOf, List.span_eq_takeWhile_dropWhile]
    · simp [partsOf, List.span_eq_takeWhile_dropWhile]

/-! ### The authority -/

theorem splitUser_of_not_mem (h : '@' ∉ s) : splitUser s = (none, s) := by
  have all : s.reverse.takeWhile (fun c ↦ decide (c ≠ '@')) = s.reverse := by
    refine List.takeWhile_eq_self_iff.mpr fun c mem ↦ decide_eq_true fun e ↦ h ?_
    rw [← e]
    exact List.mem_reverse.mp mem
  simp only [splitUser, all, List.reverse_reverse, if_true]

theorem splitPort_of_not_mem (colon : ':' ∉ s) (opening : '[' ∉ s) (closing : ']' ∉ s) :
    splitPort false s = (s, []) := by
  induction s with
  | nil => rfl
  | cons c s ih =>
    have here : ':' ≠ c ∧ '[' ≠ c ∧ ']' ≠ c :=
      ⟨fun e ↦ colon (e ▸ .head s), fun e ↦ opening (e ▸ .head s), fun e ↦ closing (e ▸ .head s)⟩
    have later := ih (fun mem ↦ colon (.tail c mem)) (fun mem ↦ opening (.tail c mem))
      fun mem ↦ closing (.tail c mem)
    rw [splitPort, if_neg fun e ↦ here.1 e.1.symm, if_neg here.2.1.symm, if_neg here.2.2.symm, later]

/-- The URL of a page on the host, of the parts that follow the host. -/
def ofHost (scheme : List Char) (host : Host) (parts : Parts) : Url where
  scheme
  hasAuthority := true
  user := none
  host := some host
  port := none
  path := (Path.read .web parts.front).1
  query := parts.query
  fragment := parts.fragment

theorem withAuthority?_append (web : kind scheme = .web) (text : IsHostText h)
    (ends : ∀ c ∈ t.head?, isSlash .web c = true) (parts : Parts) :
    withAuthority? scheme parts (h ++ t) =
      (Host.special? h).map fun host ↦ ofHost scheme host { parts with front := t } := by
  have noSlash : ∀ c ∈ h, (!isSlash .web c) = true := fun c mem ↦ by
    rw [text.isSlash mem]
    rfl
  have stop : ∀ c ∈ t.head?, (!isSlash .web c) = false := fun c head ↦ by
    rw [ends c head]
    rfl
  have user := splitUser_of_not_mem fun mem ↦ text.unmarked '@' mem (by decide)
  have port := splitPort_of_not_mem (fun mem ↦ text.unmarked ':' mem (by decide))
    (fun mem ↦ text.unmarked '[' mem (by decide)) fun mem ↦ text.unmarked ']' mem (by decide)
  have host_ne : h.isEmpty = false := List.isEmpty_eq_false_iff.mpr text.ne_nil
  have nothing : ([] : List Char).span (fun c ↦ decide (c ≠ '\\')) = ([], []) := rfl
  simp only [withAuthority?, web, Text.span_append noSlash stop, user, port, host_ne, nothing,
    port?, List.nil_append, Option.bind_eq_bind, Option.bind_some, Option.bind_none,
    Bool.and_false, Bool.false_and, Bool.false_eq_true, if_false, reduceCtorEq, Option.pure_def]
  rw [Option.map_eq_bind]
  rfl

/-! ### The whole URL -/

theorem scheme?_of_web (web : scheme = "http".toList ∨ scheme = "https".toList) :
    kind scheme = .web ∧ scheme? (scheme ++ ':' :: s) = some (scheme, s) := by
  have front : (scheme ++ ':' :: s).span (fun c ↦
      c.isAlphanum || ['+', '-', '.'].contains c || isBreak c) = (scheme, ':' :: s) := by
    refine Text.span_append ?_ ?_
    · rcases web with rfl | rfl <;> exact List.all_eq_true.mp (by decide)
    · rintro c ⟨⟩
      decide
  simp only [scheme?, front]
  rcases web with rfl | rfl <;> exact ⟨by decide, rfl⟩

theorem isVisible_of_web (web : scheme = "http".toList ∨ scheme = "https".toList) :
    ∀ c ∈ scheme, isVisible c = true := by
  rcases web with rfl | rfl <;> exact List.all_eq_true.mp (by decide)

/-- A page of the web is read from the text of its host, and from what follows that. -/
theorem parse?_append (web : scheme = "http".toList ∨ scheme = "https".toList)
    (text : IsHostText h) (ends : endsHost t) :
    parse? (scheme ++ "://".toList ++ (h ++ t)) =
      (Host.special? h).map fun host ↦ ofHost scheme host (partsOf .web (cleaned t)) := by
  let ending := t.rdropWhile fun c ↦ decide (c.toNat ≤ 0x20)
  have slashes : ∀ c ∈ "//".toList ++ h, isVisible c = true := by
    intro c mem
    rcases List.mem_append.mp mem with slash | here
    · exact List.all_eq_true.mp (by decide) c slash
    · exact text.visible c here
  have visible : ∀ c ∈ scheme ++ ':' :: ("//".toList ++ h), isVisible c = true := by
    intro c mem
    rcases List.mem_append.mp mem with first | later
    · exact isVisible_of_web web c first
    · rcases List.mem_cons.mp later with rfl | later
      · decide
      · exact slashes c later
  have trim : trimmed (scheme ++ ':' :: ("//".toList ++ h) ++ t) =
      scheme ++ ':' :: ("//".toList ++ h) ++ ending :=
    Text.trim_append (by simp) fun c mem ↦
      decide_eq_false (Nat.not_le.mpr (isVisible_iff.mp (visible c mem)).2.1)
  have counts : Path.dropBreaks ("//".toList ++ h ++ ending) = "//".toList ++ h ++ cleaned t := by
    rw [Path.dropBreaks_append, dropBreaks_of_isVisible slashes, cleaned]
  have parts := partsOf_append (k := .web) (t := cleaned t) (not_mem_of_isVisible slashes)
  have behind : ("//".toList ++ h ++ (partsOf .web (cleaned t)).front).dropWhile (isSlash .web) =
      h ++ (partsOf .web (cleaned t)).front := by
    obtain ⟨c, h', rfl⟩ := List.exists_cons_of_ne_nil text.ne_nil
    rw [List.append_assoc, List.dropWhile_append_of_pos (List.all_eq_true.mp (by decide)),
      List.cons_append, List.dropWhile_cons_of_neg (Bool.eq_false_iff.mp (text.isSlash (.head h')))]
  obtain ⟨kind, read⟩ := scheme?_of_web (s := "//".toList ++ h ++ ending) web
  have whole : scheme ++ "://".toList ++ (h ++ t) = scheme ++ ':' :: ("//".toList ++ h) ++ t := by
    simp
  have again : scheme ++ ':' :: ("//".toList ++ h) ++ ending =
      scheme ++ ':' :: ("//".toList ++ h ++ ending) := by
    simp
  rw [whole, parse?, trim, again, read]
  simp only [Option.bind_eq_bind, Option.bind_some, kind, counts, parts, behind]
  rw [withAuthority?_append kind text (isSlash_front_partsOf (endsHost_cleaned ends))]

end ContractScan.Url
