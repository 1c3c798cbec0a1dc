import ContractScan.Proofs.Url.Authority

/-!
# What is read of a page of the web

However a page of the web is written, it has a host, which is one of those for special schemes, and
its path has segments of seen characters of ASCII, none of which ends a segment or a path
(`exists_isPage_of_parse?`).
-/

namespace ContractScan.Url

variable {s : List Char} {c : Char}

/-- Characters of ASCII that are seen and end neither a segment nor a path. -/
def IsClean (s : List Char) : Prop := ∀ c ∈ s, isVisible c = true ∧ c ≠ '/'

theorem isClean_nil : IsClean [] := List.forall_mem_nil _

theorem isClean_percentByte (b : UInt8) : IsClean (percentByte b) := by
  have digit : ∀ n < 16, isVisible (Text.hexDigit n).toUpper = true ∧
      (Text.hexDigit n).toUpper ≠ '/' := by decide
  simp only [IsClean, percentByte, Text.hexByte, List.map_cons, List.map_nil, List.forall_mem_cons]
  exact ⟨by decide, digit _ (Nat.mod_lt _ (by decide)), digit _ (Nat.mod_lt _ (by decide)),
    List.forall_mem_nil _⟩

theorem isVisible_of_pathSet (plain : pathSet c = false) : isVisible c = true := by
  have ascii : c.toNat < 128 := by
    have noControl := plain
    simp only [pathSet, fragmentSet, isControl, Bool.or_eq_false_iff, decide_eq_false_iff_not]
      at noControl
    omega
  exact Text.forall_ascii (P := fun c ↦ pathSet c = false → isVisible c = true) (by decide) c ascii
    plain

/-- What is encoded of a segment is clean. -/
theorem isClean_percentEncode (noSlash : '/' ∉ s) : IsClean (percentEncode pathSet s) := by
  intro c mem
  obtain ⟨d, there, mem⟩ := List.mem_flatMap.mp mem
  rw [percentEncodeChar] at mem
  split at mem
  next =>
    obtain ⟨b, -, mem⟩ := List.mem_flatMap.mp mem
    exact isClean_percentByte b c mem
  next plain =>
    cases List.mem_singleton.mp mem
    exact ⟨isVisible_of_pathSet (Bool.eq_false_iff.mpr plain), fun e ↦ noSlash (e ▸ there)⟩

namespace Path

variable {t : Trail}

theorem isClean_done_up (clean : ∀ p ∈ t.done, IsClean p) : ∀ p ∈ t.up.done, IsClean p := by
  rw [Trail.up]
  split
  next d rest done =>
    split
    · exact clean
    · exact fun p mem ↦ clean p (done ▸ .tail d mem)
  next => exact clean

/-- One more segment of a path keeps what has been read clean. -/
theorem isClean_done_step (clean : ∀ p ∈ t.done, IsClean p) (last : Bool) (noSlash : '/' ∉ s) :
    ∀ p ∈ (t.step .web last s).done, IsClean p := by
  have settled (u : Trail) (clean : ∀ p ∈ u.done, IsClean p) :
      ∀ p ∈ (if last then u.add [] else u).done, IsClean p := by
    split
    · exact List.forall_mem_cons.mpr ⟨isClean_nil, clean⟩
    · exact clean
  have text : '/' ∉ dropBreaks s := fun mem ↦ noSlash (List.mem_of_mem_filter mem)
  simp only [Trail.step]
  split
  · exact settled _ (isClean_done_up clean)
  · split
    · exact settled _ clean
    · rw [if_neg (by simp)]
      exact List.forall_mem_cons.mpr ⟨isClean_percentEncode text, clean⟩

theorem isClean_done_walk {path : List (List Char)} (clean : ∀ p ∈ t.done, IsClean p)
    (noSlash : ∀ p ∈ path, '/' ∉ p) : ∀ p ∈ (t.walk .web path).done, IsClean p := by
  induction path generalizing t with
  | nil => exact clean
  | cons s path ih =>
    have next := isClean_done_step clean path.isEmpty (noSlash s (.head path))
    exact ih next fun p mem ↦ noSlash p (.tail s mem)

/-- The path of a page of the web has clean segments. -/
theorem exists_read_web (s : List Char) :
    ∃ ps, (read .web s).1 = .segments ps ∧ ∀ p ∈ ps, IsClean p := by
  cases s with
  | nil => exact ⟨[[]], rfl, List.forall_mem_singleton.mpr isClean_nil⟩
  | cons c r =>
    refine ⟨_, rfl, fun p mem ↦ ?_⟩
    rw [if_neg (by decide)] at mem
    have noSlash : ∀ q ∈ (if isSlash .web c then r else c :: r).splitOnP (isSlash .web), '/' ∉ q := by
      intro q piece slash
      have other := (List.mem_filter.mp (Text.mem_filter_of_mem_splitOnP piece slash)).2
      exact absurd other (by decide)
    exact isClean_done_walk (List.forall_mem_nil _) noSlash p (List.mem_reverse.mp mem)

end Path

variable {scheme : List Char} {parts : Parts} {url : Url}

theorem scheme_of_withAuthority? (read : withAuthority? scheme parts s = some url) :
    url.scheme = scheme := by
  simp only [withAuthority?] at read
  split at read
  · cases read
  · split at read
    · cases read
    · split at read
      all_goals
        obtain ⟨host, -, read⟩ := Option.bind_eq_some_iff.mp read
        obtain ⟨port, -, read⟩ := Option.bind_eq_some_iff.mp read
        cases read
        rfl

theorem scheme_of_ofFile? (read : ofFile? parts = some url) : url.scheme = "file".toList := by
  simp only [ofFile?] at read
  split_ifs at read
  all_goals
    obtain ⟨host, -, read⟩ := Option.bind_eq_some_iff.mp read
    cases read
    rfl

/-- The URL has the host, which is one for special schemes, and its path has clean segments. -/
structure IsPage (url : Url) (host : Host) : Prop where
  there : url.host = some host
  special : ∃ text, Host.special? text = some host
  path : ∃ ps, url.pathSegments? = some ps ∧ ∀ p ∈ ps, IsClean p

theorem exists_isPage_of_withAuthority? (web : kind scheme = .web)
    (read : withAuthority? scheme parts s = some url) : ∃ host, IsPage url host := by
  simp only [withAuthority?, web] at read
  split at read
  · cases read
  · split at read
    · cases read
    next some =>
      obtain ⟨host, special, read⟩ := Option.bind_eq_some_iff.mp read
      obtain ⟨port, -, read⟩ := Option.bind_eq_some_iff.mp read
      cases read
      obtain ⟨ps, path, clean⟩ := Path.exists_read_web _
      refine ⟨host, if_neg fun none ↦ some ?_, ⟨_, special⟩, ps, ?_, clean⟩
      · rw [none]
        rfl
      · rw [pathSegments?, path]

theorem exists_isPage_of_parse? (read : parse? s = some url) (http : url.isHttp = true) :
    ∃ host, IsPage url host := by
  have web : kind url.scheme = .web := by
    simp only [isHttp, Bool.or_eq_true, decide_eq_true_eq] at http
    exact (scheme?_of_web (s := []) http).1
  obtain ⟨⟨scheme, rest⟩, -, read⟩ := Option.bind_eq_some_iff.mp read
  dsimp only at read
  split at read
  next =>
    rw [scheme_of_ofFile? read] at web
    exact absurd web (by decide)
  next here => exact exists_isPage_of_withAuthority? here read
  next other =>
    split at read
    next =>
      rw [scheme_of_withAuthority? read, other] at web
      cases web
    next =>
      cases read
      rw [withoutAuthority, other] at web
      cases web

end ContractScan.Url
