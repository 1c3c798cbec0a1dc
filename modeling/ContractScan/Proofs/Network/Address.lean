import ContractScan.Network.Address
import ContractScan.Proofs.Url.Page

/-!
# Pages of explorers

The page of an explorer is read back as the address and the network that it was made of
(`Network.ofPage?_explorerPage`), and so is any other page of the same kind
(`Network.ofPage?_text`).
-/

namespace ContractScan

namespace Address

theorem isAlphanum_of_isDigitIn {c : Char} (h : Text.isDigitIn 16 c = true) :
    c.isAlphanum = true := by
  by_cases ascii : c.toNat < 128
  · exact Text.forall_ascii (P := fun c ↦ Text.isDigitIn 16 c = true → c.isAlphanum = true)
      (by decide) c ascii h
  · have above (d : Char) (small : d.toNat < 128) : ¬c ≤ d := fun le ↦
      ascii (Nat.lt_of_le_of_lt (UInt32.le_iff_toNat_le.mp le) small)
    have none : Text.hexDigit? c = none := by
      rw [Text.hexDigit?, if_neg fun le ↦ above '9' (by decide) le.2,
        if_neg fun le ↦ above 'f' (by decide) le.2, if_neg fun le ↦ above 'F' (by decide) le.2]
    rw [Text.isDigitIn, Text.digit?, none] at h
    cases h

theorem forall_mem_of_isEvm {P : Char → Prop} {a : String} (h : isEvm a = true) (zero : P '0')
    (x : P 'x') (digit : ∀ c, Text.isDigitIn 16 c = true → P c) : ∀ c ∈ a.toList, P c := by
  unfold isEvm at h
  split at h
  next ds text =>
    have digits := List.all_eq_true.mp (Bool.and_eq_true_iff.mp h).2
    rw [text]
    intro c mem
    rcases List.mem_cons.mp mem with rfl | mem
    · exact zero
    · rcases List.mem_cons.mp mem with rfl | mem
      · exact x
      · exact digit c (digits c mem)
  next => cases h

/-- An address is a row of letters and digits. -/
theorem isAlphanum_of_isEvm {a : String} (h : isEvm a = true) :
    a.toList ≠ [] ∧ a.toList.all Char.isAlphanum = true := by
  refine ⟨fun nil ↦ ?_, List.all_eq_true.mpr ?_⟩
  · rw [isEvm, nil] at h
    cases h
  · exact forall_mem_of_isEvm h (by decide) (by decide) fun c ↦ isAlphanum_of_isDigitIn

theorem isSolana_of_isEvm {a : String} (h : isEvm a = true) : isSolana a = false := by
  unfold isEvm at h
  split at h
  next ds text =>
    have lookalike : isBase58 '0' = false := by decide
    simp [isSolana, text, lookalike]
  next => cases h

theorem isAlphanum_of_isSolana {a : String} (h : isSolana a = true) :
    a.toList ≠ [] ∧ a.toList.all Char.isAlphanum = true := by
  simp only [isSolana, Bool.and_eq_true, decide_eq_true_eq] at h
  obtain ⟨⟨long, -⟩, base58⟩ := h
  refine ⟨fun e ↦ by simp [e] at long, List.all_eq_true.mpr fun c mem ↦ ?_⟩
  exact (Bool.and_eq_true_iff.mp (List.all_eq_true.mp base58 c mem)).1

end Address

namespace Network

theorem isEvm_eq_false {n : Network} (h : n.isEvm = false) : n = .solana := by
  cases n with
  | solana => rfl
  | _ => cases h

theorem isAlphanum_of_isAddress {n : Network} {a : String} (h : n.isAddress a = true) :
    a.toList ≠ [] ∧ a.toList.all Char.isAlphanum = true := by
  rw [isAddress] at h
  split at h
  · exact Address.isAlphanum_of_isEvm h
  · exact Address.isAlphanum_of_isSolana h

/-- The segment announces an address. -/
def announces (s : List Char) : Bool := ["address", "account", "token"].contains (String.ofList s)

theorem announced?_append {before : List (List Char)} {word : List Char}
    (others : ∀ s ∈ before, announces s = false) (here : announces word = true)
    (rest : List (List Char)) : announced? (before ++ word :: rest) = rest.head? := by
  induction before with
  | nil => exact if_pos here
  | cons s before ih =>
    have other : ¬announces s = true := Bool.eq_false_iff.mp (others s (.head before))
    calc announced? (s :: before ++ word :: rest)
      _ = announced? (before ++ word :: rest) := if_neg other
      _ = rest.head? := ih fun s mem ↦ others s (.tail _ mem)

/-- A host is what is left of it behind any number of `www.`. -/
theorem exists_replicate_withoutWww (s : List Char) :
    ∃ k, s = (List.replicate k "www.".toList).flatten ++ withoutWww s := by
  fun_induction withoutWww s with
  | case1 s ih =>
    obtain ⟨k, e⟩ := ih
    refine ⟨k + 1, ?_⟩
    rw [List.replicate_succ, List.flatten_cons, List.append_assoc, ← e]
    rfl
  | case2 => exact ⟨0, rfl⟩

theorem explorerHosts_isPlain (n : Network) : ∀ h ∈ n.explorerHosts,
    Url.Host.IsPlain h.toList ∧ ofExplorerHost? h.toList = some n := by
  cases n <;> decide +kernel

/-- A page on a host of an explorer tells the address that is announced in its path, whatever query
and fragment follow. -/
theorem ofPage?_text {n : Network} {before : List (List Char)} {word a t : List Char}
    (p : Url.Page) (known : ofExplorerHost? p.host = some n) (path : p.path = before ++ [word, a])
    (others : ∀ s ∈ before, announces s = false) (here : announces word = true) (ne : a ≠ [])
    (ends : Url.endsPath t) :
    ofPage? (String.ofList (p.text ++ t)) = some (String.ofList a, n) := by
  have whole : Text.trimmed (p.text ++ t) = p.text ++ t.rdropWhile Text.isBlank :=
    Text.trim_append p.text_ne_nil fun c mem ↦ Url.isBlank_of_isVisible (p.isVisible_text c mem)
  obtain ⟨parts, read⟩ := p.parse?_text (Text.forall_head_rdropWhile ends Text.isBlank)
  have host : (p.url parts).host = some (.domain p.host) := rfl
  have segments : (p.url parts).pathSegments? = some p.path := rfl
  have address : Text.trimmed a = a :=
    Text.trimmed_of_alphanum (p.alphanum a (by simp [path]))
  have found : announced? p.path = some a := by
    rw [path]
    exact announced?_append others here [a]
  rw [ofPage?, String.toList_ofList, whole, read]
  simp only [p.isHttp_url parts, host, segments, Url.Host.render, known, found, address,
    Option.bind_eq_bind, Option.bind_some, List.isEmpty_eq_false_iff.mpr ne]
  rfl

/-- What is read of a text as a page. -/
theorem exists_of_ofPage? {text x : String} {n : Network} (page : ofPage? text = some (x, n)) :
    ∃ url segment, Url.parse? (Text.trimmed text.toList) = some url ∧ url.isHttp = true ∧
      (∃ host, url.host = some host ∧ ofExplorerHost? host.render = some n) ∧
      (∃ ps, url.pathSegments? = some ps ∧ announced? ps = some segment) ∧
      x = String.ofList (Text.trimmed segment) ∧ Text.trimmed segment ≠ [] := by
  simp only [ofPage?, Option.bind_eq_bind, Option.bind_eq_some_iff] at page
  obtain ⟨url, read, page⟩ := page
  split at page
  · cases page
  next http =>
    simp only [Option.bind_eq_some_iff] at page
    obtain ⟨host, there, network, known, ps, segments, segment, found, page⟩ := page
    split at page
    · cases page
    next said =>
      cases page
      refine ⟨url, segment, read, by simpa using http, ⟨host, there, known⟩, ⟨ps, segments, found⟩,
        rfl, ?_⟩
      simpa using said

/-- The page of the explorer for an address is about this address on its network. -/
theorem ofPage?_explorerPage {n : Network} {a : String} (h : n.isAddress a = true) :
    ofPage? (n.explorerPage ++ a) = some (a, n) := by
  obtain ⟨ne, alphanum⟩ := isAlphanum_of_isAddress h
  obtain ⟨host, mem, start⟩ : ∃ host ∈ n.explorerHosts, n.explorerPage.toList =
      "https".toList ++ ':' :: '/' :: '/' :: (host.toList ++ "/address/".toList) := by
    cases n <;> exact ⟨_, .head _, by decide +kernel⟩
  obtain ⟨plain, known⟩ := explorerHosts_isPlain n host mem
  let page : Url.Page := {
    scheme := "https".toList
    host := host.toList
    path := ["address".toList, a.toList]
    web := .inr rfl
    plain
    ne_nil := List.cons_ne_nil _ _
    alphanum := List.forall_mem_cons.mpr ⟨by decide, List.forall_mem_singleton.mpr alphanum⟩ }
  have text : n.explorerPage ++ a = String.ofList (page.text ++ []) := by
    refine String.toList_inj.mp ?_
    rw [String.toList_append, start, String.toList_ofList]
    simp [page, Url.Page.text, Url.Page.rest, Url.Page.pathText]
  have others : ∀ s ∈ ([] : List (List Char)), announces s = false :=
    fun _ mem ↦ absurd mem List.not_mem_nil
  rw [text, ofPage?_text page known (List.nil_append _).symm others (by decide) ne Url.endsPath_nil,
    String.ofList_toList]

/-- An address is no page. -/
theorem ofPage?_of_isAddress {n : Network} {a : String} (h : n.isAddress a = true) :
    ofPage? a = none := by
  have alphanum := (isAlphanum_of_isAddress h).2
  rw [ofPage?, Text.trimmed_of_alphanum alphanum, Url.parse?_of_alphanum alphanum]
  rfl

end Network

end ContractScan
