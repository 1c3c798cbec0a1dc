import ContractScan.CommandLine.Run
import ContractScan.Proofs.Network.Address
import ContractScan.Proofs.Text.Mention

/-!
# Hints

A hint is searched for the names of explorers as a whole. In the page of an explorer they may stand
in the address as well as in the host: never in an address of an EVM network, but in one on Solana,
whose network is then taken for another (`Network.detect_explorerPage`).
-/

namespace ContractScan

namespace Network

variable {n : Network} {a : String}

/-- The words that hints are searched for. -/
def hintWords : List String :=
  ["bscscan", "bsc", "polygonscan", "polygon", "snowtrace", "avalanche", "solana"]

/-- The words are not found across the slash in front of the address. -/
theorem mentions_explorerPage {w : String} (mem : w ∈ hintWords) :
    Text.mentions (n.explorerPage ++ a) w =
      (Text.mentions n.explorerPage w || Text.mentions a w) := by
  have ends : (n.explorerPage.toList.map Char.toLower).getLast? = some '/' := by
    cases n <;> decide
  have absent : ∀ w ∈ hintWords, '/' ∉ w.toList := by decide
  exact Text.mentions_append ends (absent w mem)

/-- Each of the words has a letter that is no hexadecimal digit. -/
theorem mentions_of_isEvm {w : String} (mem : w ∈ hintWords) (h : Address.isEvm a = true) :
    Text.mentions a w = false := by
  have letters : ∀ w ∈ hintWords, w.toList.any ['s', 'p', 'v'].contains = true := by decide
  have digits : ∀ c ∈ a.toList, c.toLower ∉ ['s', 'p', 'v'] := by
    refine Address.forall_mem_of_isEvm h (by decide) (by decide) fun c digit ↦ ?_
    exact Text.forall_alphanum
      (P := fun c ↦ Text.isDigitIn 16 c = true → c.toLower ∉ ['s', 'p', 'v']) (by decide)
      (Address.isAlphanum_of_isDigitIn digit) digit
  obtain ⟨c, there, letter⟩ := List.any_eq_true.mp (letters w mem)
  exact Text.mentions_eq_false there fun d within same ↦
    digits d within (same ▸ List.contains_iff_mem.mp letter)

/-- What a hint about the page of an explorer is taken to say. -/
theorem ofHint?_explorerPage (h : n.isAddress a = true) :
    ofHint? (n.explorerPage ++ a) =
      if n.isEvm then ofHint? n.explorerPage else some ((ofHint? a).getD n) := by
  have found := @mentions_explorerPage n a
  simp only [hintWords, List.forall_mem_cons] at found
  cases evm : n.isEvm with
  | true =>
    rw [isAddress, evm] at h
    have absent := fun w mem ↦ mentions_of_isEvm (w := w) mem h
    simp only [hintWords, List.forall_mem_cons] at absent
    simp only [ofHint?, List.any_cons, List.any_nil, found, absent, Bool.or_false, if_true]
  | false =>
    obtain rfl := isEvm_eq_false evm
    have others : ∀ w ∈ hintWords.dropLast, Text.mentions solana.explorerPage w = false := by
      decide
    have own : Text.mentions solana.explorerPage "solana" = true := by decide
    simp only [hintWords, List.dropLast, List.forall_mem_cons] at others
    simp only [ofHint?, List.any_cons, List.any_nil, found, others, own, Bool.false_or,
      Bool.true_or, Bool.or_false, Bool.false_eq_true, if_true, if_false]
    -- the page itself answers only the last question, the address those before it
    cases Text.mentions a "bscscan" || Text.mentions a "bsc" with
    | true => rfl
    | false =>
      cases Text.mentions a "polygonscan" || Text.mentions a "polygon" with
      | true => rfl
      | false =>
        cases Text.mentions a "snowtrace" || Text.mentions a "avalanche" with
        | true => rfl
        | false => cases Text.mentions a "solana" <;> rfl

/-- Of an EVM address the page of the explorer tells the network; of an address on Solana it does
unless the address itself mentions another network. -/
theorem detect_explorerPage (h : n.isAddress a = true) :
    detect a (some (n.explorerPage ++ a)) = if n.isEvm then n else (ofHint? a).getD n := by
  rw [detect, Option.bind_some, ofHint?_explorerPage h]
  cases evm : n.isEvm with
  | true =>
    rw [isAddress, evm] at h
    have form : ofAddressForm a = .ethereum := by
      rw [ofAddressForm, Address.isSolana_of_isEvm h]
      rfl
    have own : ∀ n ∈ all, n.isEvm = true → (ofHint? n.explorerPage).getD .ethereum = n := by
      decide
    rw [form]
    exact own n (by cases n <;> decide) evm
  | false => rfl

end Network

namespace CommandLine

open Network

variable {n : Network} {a : String}

theorem target_callOf_page (h : n.isAddress a = true) (hint : Option String) :
    (callOf (n.explorerPage ++ a) hint).target = (n, a) := by
  rw [callOf, ofPage?_explorerPage h]
  rfl

theorem target_callOf_address (h : n.isAddress a = true) (hint : Option String) :
    (callOf a hint).target = (detect a hint, a) := by
  have whole : Text.trim a = a := by
    rw [Text.trim, Text.trimmed_of_alphanum (isAlphanum_of_isAddress h).2, String.ofList_toList]
  rw [callOf, ofPage?_of_isAddress h]
  simp only [Call.target, whole]

/-- The page of an explorer, given as the argument, names the network and the address it was made
of. Given as a hint beside the address, it names the same on the EVM networks; on Solana it does
just when the address mentions no other network, and else it names the one that is mentioned. -/
theorem targets_of_explorerPage (h : n.isAddress a = true) :
    let page := n.explorerPage ++ a
    detect a (some page) = (if n.isEvm then n else (ofHint? a).getD n) ∧
    (detect a (some page) = n ↔ n.isEvm = true ∨ ∀ m ∈ ofHint? a, m = n) ∧
    (callOf page none).target = (n, a) ∧
    (callOf a (some page)).target = (detect a (some page), a) := by
  intro page
  have hinted : detect a (some page) = if n.isEvm then n else (ofHint? a).getD n :=
    detect_explorerPage h
  refine ⟨hinted, ?_, target_callOf_page h none, target_callOf_address h (some page)⟩
  rw [hinted]
  cases n.isEvm with
  | true => simp
  | false => cases ofHint? a <;> simp

/-- An address on Solana, where the page names the network as it should. -/
theorem targets_of_explorerPage_solana :
    let loader := "BPFLoaderUpgradeab1e11111111111111111111111"
    let page := solana.explorerPage ++ loader
    solana.isAddress loader = true ∧ detect loader (some page) = .solana ∧
      (callOf loader (some page)).target = (callOf page none).target := by
  intro loader page
  have valid : solana.isAddress loader = true := by decide +kernel
  have silent : ofHint? loader = none := by decide +kernel
  obtain ⟨-, same, asPage, asHint⟩ := targets_of_explorerPage valid
  have hinted := same.mpr (.inr (silent ▸ nofun))
  exact ⟨valid, hinted, by rw [asHint, asPage, hinted]⟩

/-- An address on Solana that holds the letters of `bsc`, so that its page is taken for one of
another network. -/
theorem targets_of_explorerPage_mistaken :
    let account := "5vNt2vgV5boqwwRjueUZcbvsGfqzL7jZZtNubbSC8R9A"
    let page := solana.explorerPage ++ account
    solana.isAddress account = true ∧ detect account (some page) = .bsc ∧
      (callOf page none).target = (.solana, account) ∧
      (callOf account (some page)).target = (.bsc, account) := by
  intro account page
  have valid : solana.isAddress account = true := by decide +kernel
  have mistaken : detect account (some page) = .bsc := by decide +kernel
  exact ⟨valid, mistaken, target_callOf_page valid none,
    mistaken ▸ target_callOf_address valid (some page)⟩

end CommandLine

end ContractScan
