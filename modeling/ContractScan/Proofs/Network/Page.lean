import ContractScan.Proofs.Network.Address
import ContractScan.Proofs.Url.LowerCase
import ContractScan.Proofs.Url.Reading

/-!
# Which texts are pages of explorers

A text that is written as a page about an address on one of a network's explorers is read as this
address and network. Of any other text that is read, the host of its URL is that of an explorer, and
it alone tells the network; nothing but one segment of the path gets into the address
(`ofPage?_spec`).
-/

namespace ContractScan.Network

/-- The words that announce an address. -/
def announcing : List String := ["address", "account", "token"]

/-- A page about the address on an explorer of the network, as it may be written. -/
structure PageOf (n : Network) (a : String) where
  scheme : String
  host : String
  /-- What stands in the path before the word that announces the address. -/
  before : List String
  word : String
  query : Option String
  fragment : Option String
  web : scheme = "http" ∨ scheme = "https"
  known : host ∈ n.explorerHosts ∨ ∃ h ∈ n.explorerHosts, host = "www." ++ h
  others : ∀ s ∈ before, s.toList.all Char.isAlphanum = true ∧ s ∉ announcing
  announces : word ∈ announcing
  isAddress : n.isAddress a = true

/-- The URL has the host of an explorer of the network, with any number of `www.` in front. -/
structure IsOn (n : Network) (url : Url) : Prop where
  web : url.scheme = "http".toList ∨ url.scheme = "https".toList
  host : ∃ host, url.host = some host ∧ ∃ k, ∃ entry ∈ n.explorerHosts,
    host.render = (List.replicate k "www.".toList).flatten ++ entry.toList

/-! ### Pages as they are written -/

namespace PageOf

variable {n : Network} {a : String}

/-- The path up to the address. -/
def path (p : PageOf n a) : List String := p.before ++ [p.word, a]

/-- Query and fragment with their marks. -/
def ending (p : PageOf n a) : String :=
  (p.query.elim "" fun q ↦ "?" ++ q) ++ p.fragment.elim "" fun f ↦ "#" ++ f

/-- The page as it is written. -/
def text (p : PageOf n a) : String :=
  p.scheme ++ "://" ++ p.host ++ String.join (p.path.map fun s ↦ "/" ++ s) ++ p.ending

theorem isPlain_host (p : PageOf n a) :
    Url.Host.IsPlain p.host.toList ∧ ofExplorerHost? p.host.toList = some n := by
  rcases p.known with here | ⟨h, here, e⟩
  · exact explorerHosts_isPlain n _ here
  · have each : ∀ h ∈ n.explorerHosts, Url.Host.IsPlain ("www." ++ h).toList ∧
        ofExplorerHost? ("www." ++ h).toList = some n := by
      cases n <;> decide +kernel
    exact e ▸ each h here

theorem isAlphanum_path (p : PageOf n a) :
    ∀ s ∈ p.path.map String.toList, s.all Char.isAlphanum = true := by
  have word : ∀ w ∈ announcing, w.toList.all Char.isAlphanum = true := by decide
  simp only [path, List.map_append, List.map_cons, List.map_nil, List.forall_mem_append,
    List.forall_mem_cons, List.forall_mem_map]
  exact ⟨fun s mem ↦ (p.others s mem).1, word _ p.announces,
    (isAlphanum_of_isAddress p.isAddress).2, List.forall_mem_nil _⟩

/-- The page without query and fragment. -/
def page (p : PageOf n a) : Url.Page where
  scheme := p.scheme.toList
  host := p.host.toList
  path := p.path.map String.toList
  web := p.web.imp (congrArg String.toList) (congrArg String.toList)
  plain := p.isPlain_host.1
  ne_nil := by simp [path]
  alphanum := p.isAlphanum_path

theorem text_eq (p : PageOf n a) : p.text = String.ofList (p.page.text ++ p.ending.toList) := by
  refine String.toList_inj.mp ?_
  have segments (ss : List String) : (String.join (ss.map fun s ↦ "/" ++ s)).toList =
      (ss.map String.toList).flatMap fun s ↦ '/' :: s := by
    induction ss with
    | nil => rfl
    | cons s ss ih => simp [String.join_cons, ih]
  simp [text, page, Url.Page.text, Url.Page.rest, Url.Page.pathText, segments]

theorem endsPath_ending (p : PageOf n a) : Url.endsPath p.ending.toList := by
  rw [ending]
  intro c head
  cases query : p.query with
  | some q =>
    simp [query] at head
    exact .inl head.symm
  | none =>
    cases fragment : p.fragment with
    | some f =>
      simp [query, fragment] at head
      exact .inr head.symm
    | none => simp [query, fragment] at head

/-- A page is read as it is written. -/
theorem ofPage?_eq (p : PageOf n a) : ofPage? p.text = some (a, n) := by
  have path : p.page.path = p.before.map String.toList ++ [p.word.toList, a.toList] := by
    simp [page, PageOf.path]
  have others : ∀ s ∈ p.before.map String.toList, Network.announces s = false := by
    intro s mem
    obtain ⟨s, there, rfl⟩ := List.mem_map.mp mem
    rw [Network.announces, String.ofList_toList]
    exact Bool.eq_false_iff.mpr fun here ↦ (p.others s there).2 (List.contains_iff_mem.mp here)
  have here : Network.announces p.word.toList = true := by
    rw [Network.announces, String.ofList_toList]
    exact List.contains_iff_mem.mpr p.announces
  rw [p.text_eq, ofPage?_text p.page p.isPlain_host.2 path others here
    (isAlphanum_of_isAddress p.isAddress).1 p.endsPath_ending, String.ofList_toList]

end PageOf

/-! ### Pages as they are read -/

theorem mem_of_announced? {ss : List (List Char)} {s : List Char} (found : announced? ss = some s) :
    s ∈ ss := by
  induction ss with
  | nil => cases found
  | cons t ss ih =>
    rw [announced?] at found
    split at found
    · exact .tail t (List.mem_of_mem_head? found)
    · exact .tail t (ih found)

theorem plain_of_mem_explorerHosts {n : Network} :
    ∀ h ∈ n.explorerHosts, ∀ c ∈ "www.".toList ++ h.toList, c ≠ '[' ∧ c ≠ '-' := by
  have all : n.explorerHosts.all (fun h ↦ ("www.".toList ++ h.toList).all fun c ↦
      c != '[' && c != '-') = true := by
    cases n <;> decide +kernel
  intro h mem c within
  simpa using List.all_eq_true.mp (List.all_eq_true.mp all h mem) c within

/-- The host of a page on an explorer is that of the table, with any number of `www.` in front. -/
theorem exists_entry_of_special? {s : List Char} {host : Url.Host} {n : Network}
    (read : Url.Host.special? s = some host) (known : ofExplorerHost? host.render = some n) :
    ∃ k, ∃ entry ∈ n.explorerHosts,
      host.render = (List.replicate k "www.".toList).flatten ++ entry.toList := by
  have mem := List.find?_some known
  rw [List.contains_iff_mem] at mem
  obtain ⟨k, lower⟩ := exists_replicate_withoutWww (host.render.map Char.toLower)
  have entry := String.toList_ofList (l := withoutWww (host.render.map Char.toLower))
  rw [← entry] at lower
  have plain : ∀ c ∈ host.render, c.toLower ≠ '[' ∧ c.toLower ≠ '-' := by
    intro c here
    have there : c.toLower ∈ host.render.map Char.toLower := List.mem_map_of_mem here
    rw [lower, List.mem_append, List.mem_flatten] at there
    refine plain_of_mem_explorerHosts _ mem _ (List.mem_append.mpr (there.imp_left ?_))
    rintro ⟨w, repeated, within⟩
    exact List.eq_of_mem_replicate repeated ▸ within
  have bracket : host.render.head? ≠ some '[' := fun head ↦
    (plain '[' (List.mem_of_mem_head? head)).1 rfl
  have hyphen : '-' ∉ host.render := fun here ↦ (plain '-' here).2 rfl
  refine ⟨k, _, mem, ?_⟩
  rw [← lower]
  exact (Url.Host.map_toLower_render read bracket hyphen).symm

theorem isOn_of_parse? {text : List Char} {url : Url} {host : Url.Host} {n : Network}
    (read : Url.parse? text = some url) (http : url.isHttp = true) (there : url.host = some host)
    (known : ofExplorerHost? host.render = some n) : IsOn n url := by
  obtain ⟨host', page⟩ := Url.exists_isPage_of_parse? read http
  cases there.symm.trans page.there
  obtain ⟨text, special⟩ := page.special
  refine ⟨by simpa [Url.isHttp] using http, host, there, exists_entry_of_special? special known⟩

/-- A page of an explorer is read as it is written. Of any text that is read as a page the URL is on
an explorer, and the address is a part of the path without white space; and texts with the same
host are on the same network, whatever else they say. -/
theorem ofPage?_spec :
    (∀ (n : Network) (a : String) (p : PageOf n a), ofPage? p.text = some (a, n)) ∧
    (∀ text x n, ofPage? text = some (x, n) →
      x ≠ "" ∧ (∀ c ∈ x.toList, c ∉ ['/', '?', '#'] ∧ Text.isBlank c = false) ∧
      ∃ url, Url.parse? (Text.trimmed text.toList) = some url ∧ IsOn n url) ∧
    ∀ text x n text' x' n', ofPage? text = some (x, n) → ofPage? text' = some (x', n') →
      (Url.parse? (Text.trimmed text.toList)).bind Url.host =
        (Url.parse? (Text.trimmed text'.toList)).bind Url.host → n = n' := by
  refine ⟨fun n a p ↦ p.ofPage?_eq, ?_, ?_⟩
  · intro text x n page
    obtain ⟨url, segment, read, http, ⟨host, there, known⟩, ⟨ps, segments, found⟩, rfl, said⟩ :=
      exists_of_ofPage? page
    obtain ⟨_, isPage⟩ := Url.exists_isPage_of_parse? read http
    obtain ⟨ps', also, clean⟩ := isPage.path
    cases segments.symm.trans also
    have visible := clean segment (mem_of_announced? found)
    have whole : Text.trimmed segment = segment :=
      Text.trim_of_kept fun c mem ↦ Url.isBlank_of_isVisible (visible c mem).1
    refine ⟨?_, ?_, url, read, isOn_of_parse? read http there known⟩
    · intro empty
      exact said (by simpa using congrArg String.toList empty)
    · rw [whole, String.toList_ofList]
      intro c mem
      obtain ⟨seen, slash⟩ := visible c mem
      obtain ⟨-, -, question, hash⟩ := Url.isVisible_iff.mp seen
      exact ⟨by simp [slash, question, hash], Url.isBlank_of_isVisible seen⟩
  · intro text x n text' x' n' page page' same
    obtain ⟨url, -, read, -, ⟨host, there, known⟩, -⟩ := exists_of_ofPage? page
    obtain ⟨url', -, read', -, ⟨host', there', known'⟩, -⟩ := exists_of_ofPage? page'
    rw [read, read', Option.bind_some, Option.bind_some, there, there'] at same
    cases same
    exact Option.some.inj (known.symm.trans known')

/-- A page on an explorer of Polygon, with a query that speaks of another address on another one. -/
theorem ofPage?_spec_polygon :
    let address := "0x2791Bca1f2de4661ED88A30C99A7a9449Aa84174"
    let page := "http://www.polygonscan.com/amoy/token/" ++ address ++
      "?from=@bscscan.com/address/0x1#code?"
    ofPage? page = some (address, .polygon) ∧
      ∃ url, Url.parse? (Text.trimmed page.toList) = some url ∧ IsOn .polygon url := by
  intro address page
  let p : PageOf .polygon address := {
    scheme := "http"
    host := "www.polygonscan.com"
    before := ["amoy"]
    word := "token"
    query := some "from=@bscscan.com/address/0x1"
    fragment := some "code?"
    web := .inl rfl
    known := .inr ⟨"polygonscan.com", by decide, by decide +kernel⟩
    others := by decide
    announces := by decide
    isAddress := by decide +kernel }
  obtain ⟨complete, sound, -⟩ := ofPage?_spec
  have text : p.text = page := by decide +kernel
  have read := text ▸ complete .polygon _ p
  exact ⟨read, (sound page _ _ read).2.2⟩

end ContractScan.Network
