import ContractScan.Proofs.Url.Authority
import ContractScan.Proofs.Url.Host

/-!
# Pages of the web

A page of the web with a plain host and a path of letters and digits is read as it is written: its
scheme, its host and the segments of its path are the ones that are spelled, whatever query and
fragment follow (`Page.parse?_text`).
-/

namespace ContractScan.Url

variable {s t : List Char}

/-- What may follow a path: nothing, or what begins with the mark of a query or a fragment. -/
def endsPath (s : List Char) : Prop := ∀ c ∈ s.head?, c = '?' ∨ c = '#'

theorem endsPath_nil : endsPath [] := fun _ head ↦ nomatch head

theorem front_partsOf (ends : endsPath t) : (partsOf .web t).front = [] := by
  cases t with
  | nil => rfl
  | cons c t =>
    rcases ends c rfl with rfl | rfl <;> simp [partsOf, List.span_eq_takeWhile_dropWhile]

/-- A text of letters and digits has no scheme. -/
theorem parse?_of_alphanum (h : s.all Char.isAlphanum = true) : parse? s = none := by
  have whole : trimmed s = s := Text.trim_of_kept fun c mem ↦
    Text.forall_alphanum (P := fun c ↦ decide (c.toNat ≤ 0x20) = false) (by decide)
      (List.all_eq_true.mp h c mem)
  have front : (s ++ []).span (fun c ↦
      c.isAlphanum || ['+', '-', '.'].contains c || isBreak c) = (s, []) := by
    refine Text.span_append (fun c mem ↦ ?_) fun c head ↦ nomatch head
    rw [List.all_eq_true.mp h c mem, Bool.true_or, Bool.true_or]
  rw [List.append_nil] at front
  have scheme : scheme? s = none := by
    simp only [scheme?, front]
    split
    next rest => cases rest
    next => rfl
  rw [parse?, whole, scheme]
  rfl

/-- A page of the web: a plain host and a path of letters and digits. -/
structure Page where
  scheme : List Char
  host : List Char
  path : List (List Char)
  web : scheme = "http".toList ∨ scheme = "https".toList
  plain : Host.IsPlain host
  ne_nil : path ≠ []
  alphanum : ∀ s ∈ path, s.all Char.isAlphanum = true

theorem Host.IsPlain.isHostText {host : List Char} (plain : Host.IsPlain host) :
    IsHostText host where
  ne_nil := plain.ne_nil
  visible c mem := by
    refine isVisible_iff.mpr ⟨(plain.ascii c mem).1, ?_, ?_, ?_⟩
    · have allowed := plain.allowed c mem
      simp only [Host.forbiddenInDomain, Bool.or_eq_false_iff, decide_eq_false_iff_not] at allowed
      exact Nat.lt_of_not_le allowed.1.1
    · exact fun e ↦ plain.not_mem (c := '?') (by decide) (e ▸ mem)
    · exact fun e ↦ plain.not_mem (c := '#') (by decide) (e ▸ mem)
  unmarked c mem := by
    have forbidden : hostMarks.all Host.forbiddenInDomain = true := by decide
    exact fun mark ↦ plain.not_mem (List.all_eq_true.mp forbidden c mark) mem

namespace Page

/-- The path as it is written. -/
def pathText (p : Page) : List Char := p.path.flatMap fun s ↦ '/' :: s

/-- What follows the colon of the scheme. -/
def rest (p : Page) : List Char := '/' :: '/' :: (p.host ++ p.pathText)

/-- The page as it is written. -/
def text (p : Page) : List Char := p.scheme ++ ':' :: p.rest

theorem isVisible_pathText (p : Page) : ∀ c ∈ p.pathText, isVisible c = true := by
  intro c mem
  obtain ⟨s, there, within⟩ := List.mem_flatMap.mp mem
  rcases List.mem_cons.mp within with rfl | within
  · decide
  · exact Text.forall_alphanum (P := fun c ↦ isVisible c = true) (by decide)
      (List.all_eq_true.mp (p.alphanum s there) c within)

theorem endsHost_pathText (p : Page) : endsHost (p.pathText ++ t) := by
  cases path : p.path with
  | nil => exact absurd path p.ne_nil
  | cons s path =>
    rw [pathText, path]
    rintro c ⟨⟩
    exact .inl rfl

theorem text_append (p : Page) :
    p.text ++ t = p.scheme ++ "://".toList ++ (p.host ++ (p.pathText ++ t)) := by
  simp [text, rest]

theorem isVisible_text (p : Page) : ∀ c ∈ p.text, isVisible c = true := by
  intro c mem
  rcases List.mem_append.mp mem with first | later
  · exact isVisible_of_web p.web c first
  · simp only [rest, List.mem_cons, List.mem_append] at later
    rcases later with rfl | rfl | rfl | host | path
    · decide
    · decide
    · decide
    · exact p.plain.isHostText.visible c host
    · exact p.isVisible_pathText c path

theorem text_ne_nil (p : Page) : p.text ≠ [] :=
  List.append_ne_nil_of_right_ne_nil _ (List.cons_ne_nil _ _)

/-- The URL that a page stands for, if a query and a fragment follow as given. -/
def url (p : Page) (parts : Parts) : Url where
  scheme := p.scheme
  hasAuthority := true
  user := none
  host := some (.domain p.host)
  port := none
  path := .segments p.path
  query := parts.query
  fragment := parts.fragment

theorem isHttp_url (p : Page) (parts : Parts) : (p.url parts).isHttp = true := by
  have web : (decide (p.scheme = "http".toList) || decide (p.scheme = "https".toList)) = true := by
    rcases p.web with e | e <;> rw [e] <;> decide
  exact web

/-- A page of the web is read as it is written, whatever query and fragment follow. -/
theorem parse?_text (p : Page) (ends : endsPath t) :
    ∃ parts, parse? (p.text ++ t) = some (p.url parts) := by
  have cleans : cleaned (p.pathText ++ t) = p.pathText ++ cleaned t :=
    cleaned_append p.isVisible_pathText
  have front : (partsOf .web (p.pathText ++ cleaned t)).front = p.pathText := by
    rw [partsOf_append (not_mem_of_isVisible p.isVisible_pathText),
      front_partsOf (forall_head_cleaned ends (by rintro c (rfl | rfl) <;> decide)),
      List.append_nil]
  have path : (Path.read .web p.pathText).1 = .segments p.path :=
    Path.read_of_alphanum p.ne_nil p.alphanum
  refine ⟨partsOf .web (cleaned (p.pathText ++ t)), ?_⟩
  rw [text_append, parse?_append p.web p.plain.isHostText p.endsHost_pathText,
    Host.special?_of_isPlain p.plain, Option.map_some, ofHost, cleans, front, path]
  rfl

end Page

end ContractScan.Url
