import ContractScan.Chain.Classify
import ContractScan.Proofs.Url.Page

/-!
# Origins of which the host counts

Of an origin that is a page of the web on a domain, the chain is told by the domain alone: what
stands behind the slash that follows it neither becomes a part of the host nor keeps the origin from
being read as a URL (`classify_of_domain`).
-/

namespace ContractScan

/-- A letter, a digit, a hyphen or a dot of ASCII. -/
def Url.IsDomainChar (c : Char) : Prop := c.isAlphanum = true ∨ c = '-' ∨ c = '.'

theorem Url.isHostText_of_domain {h : List Char} (ne : h ≠ []) (domain : ∀ c ∈ h, IsDomainChar c) :
    IsHostText h := by
  have each : ∀ c, IsDomainChar c → isVisible c = true ∧ c ∉ hostMarks := by
    rintro c (alphanum | rfl | rfl)
    · exact Text.forall_alphanum (P := fun c ↦ isVisible c = true ∧ c ∉ hostMarks) (by decide)
        alphanum
    · decide
    · decide
  exact ⟨ne, fun c mem ↦ (each c (domain c mem)).1, fun c mem ↦ (each c (domain c mem)).2⟩

namespace Context

variable {scheme h t : List Char}

/-- The host of an origin is read from the text of the host only. -/
theorem originHost_append (web : scheme = "http".toList ∨ scheme = "https".toList)
    (text : Url.IsHostText h) (ends : Url.endsHost t) {host : Url.Host}
    (read : Url.Host.special? h = some host) :
    originHost (String.ofList (scheme ++ "://".toList ++ (h ++ t))) =
      String.ofList host.render := by
  have visible : ∀ c ∈ scheme ++ "://".toList ++ h, Url.isVisible c = true := by
    intro c mem
    simp only [List.mem_append] at mem
    rcases mem with (first | mark) | here
    · exact Url.isVisible_of_web web c first
    · exact List.all_eq_true.mp (by decide) c mark
    · exact text.visible c here
  have whole : Text.trimmed (scheme ++ "://".toList ++ (h ++ t)) =
      scheme ++ "://".toList ++ (h ++ t.rdropWhile Text.isBlank) := by
    rw [← List.append_assoc, ← List.append_assoc]
    exact Text.trim_append (by simp) fun c mem ↦ Url.isBlank_of_isVisible (visible c mem)
  rw [originHost, String.toList_ofList, whole,
    Url.parse?_append web text (Text.forall_head_rdropWhile ends _), read]
  rfl

end Context

/-- Of a page of the web on a domain the domain alone is a sign of the chain, whatever follows its
slash. -/
theorem classify_of_domain (source : String) {scheme h : String}
    (web : scheme = "http" ∨ scheme = "https") (domain : ∀ c ∈ h.toList, Url.IsDomainChar c)
    (accepted : (Url.parse? ("https://" ++ h).toList).isSome = true) (rest : String) :
    classify source (some (scheme ++ "://" ++ h ++ "/" ++ rest)) =
        classify source (some ("https://" ++ h)) ∧
      ∃ host, Url.Host.special? h.toList = some host ∧
        Context.originHost (scheme ++ "://" ++ h ++ "/" ++ rest) = String.ofList host.render := by
  have ne : h.toList ≠ [] := by
    intro nil
    have scheme : ("https://" ++ h).toList = "https://".toList := by
      rw [String.toList_append, nil, List.append_nil]
    rw [scheme] at accepted
    exact absurd accepted (by decide)
  have text := Url.isHostText_of_domain ne domain
  have alone : ("https://" ++ h).toList = "https".toList ++ "://".toList ++ (h.toList ++ []) := by
    rw [String.toList_append, List.append_nil]
    rfl
  have slash : Url.endsHost ('/' :: rest.toList) := fun c head ↦ by
    cases head
    exact .inl rfl
  have web' : scheme.toList = "http".toList ∨ scheme.toList = "https".toList :=
    web.imp (congrArg String.toList) (congrArg String.toList)
  obtain ⟨host, read⟩ : ∃ host, Url.Host.special? h.toList = some host := by
    rw [alone, Url.parse?_append (.inr rfl) text Url.endsHost_nil, Option.isSome_map] at accepted
    exact Option.isSome_iff_exists.mp accepted
  have page : scheme ++ "://" ++ h ++ "/" ++ rest =
      String.ofList (scheme.toList ++ "://".toList ++ (h.toList ++ '/' :: rest.toList)) := by
    refine String.toList_inj.mp ?_
    simp
  have bare : "https://" ++ h =
      String.ofList ("https".toList ++ "://".toList ++ (h.toList ++ [])) := by
    rw [← alone, String.ofList_toList]
  have there := Context.originHost_append web' text slash read
  have here := Context.originHost_append (.inr rfl) text Url.endsHost_nil read
  rw [← page] at there
  rw [← bare] at here
  refine ⟨?_, host, read, there⟩
  rw [classify, classify, Option.getD_some, Option.getD_some, there, here]

/-- Behind the domain there are hosts of other chains, white space, and steps up. -/
theorem classify_of_domain_polygon :
    let rest := "\t@bscscan.com\\..\\%2e%2E/?bsc\n%#snowtrace.io/é\u00a0"
    let page := "http" ++ "://" ++ "polygon-pages.org" ++ "/" ++ rest
    classify "contract C" (some page) =
        classify "contract C" (some ("https://" ++ "polygon-pages.org")) ∧
      classify "contract C" (some page) = ⟨.polygon, "solidity", none⟩ := by
  intro rest page
  have plain : Url.Host.IsPlain "polygon-pages.org".toList := by decide +kernel
  have domain : ∀ c ∈ "polygon-pages.org".toList, Url.IsDomainChar c := by
    have all : "polygon-pages.org".toList.all (fun c ↦ c.isAlphanum || c == '-' || c == '.') =
        true := by decide +kernel
    intro c mem
    simpa [Url.IsDomainChar, or_assoc] using List.all_eq_true.mp all c mem
  have read := Url.Host.special?_of_isPlain plain
  have accepted : (Url.parse? ("https://" ++ "polygon-pages.org").toList).isSome = true := by
    have split : ("https://" ++ "polygon-pages.org").toList =
        "https".toList ++ "://".toList ++ ("polygon-pages.org".toList ++ []) := by decide +kernel
    rw [split, Url.parse?_append (.inr rfl) plain.isHostText Url.endsHost_nil, read]
    rfl
  obtain ⟨same, host, also, there⟩ :=
    classify_of_domain "contract C" (.inl rfl) domain accepted rest
  cases read.symm.trans also
  refine ⟨same, ?_⟩
  rw [classify, Option.getD_some, there]
  decide +kernel

end ContractScan
