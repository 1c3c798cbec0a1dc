import ContractScan.Proofs.Fetch.Explorer
import ContractScan.Proofs.Fetch.Session
import ContractScan.Proofs.Network.Address

/-!
# Calls without a hint

What an address looks like tells the network that is asked for it, and that is one on which it is an
address (`Network.isAddress_detect_iff`). So a call without a hint is refused for its address just
when the text is one of no network (`Settings.visit_detected`): nothing that a service replies is
taken for such a refusal (`Reply.contract_ne_invalidAddress`).
-/

namespace ContractScan

namespace Address

/-- The hexadecimal digits, in either case. -/
def hexDigits : List Char := "0123456789abcdefABCDEF".toList

/-- The digits of base58. -/
def base58Digits : List Char := "123456789ABCDEFGHJKLMNPQRSTUVWXYZabcdefghijkmnopqrstuvwxyz".toList

theorem isDigitIn_iff {c : Char} : Text.isDigitIn 16 c = true ↔ c ∈ hexDigits := by
  constructor
  · intro digit
    exact Text.forall_alphanum (P := fun c ↦ Text.isDigitIn 16 c = true → c ∈ hexDigits)
      (by decide +kernel) (isAlphanum_of_isDigitIn digit) digit
  · have all : hexDigits.all (Text.isDigitIn 16) = true := by decide +kernel
    exact List.all_eq_true.mp all c

theorem isBase58_iff {c : Char} : isBase58 c = true ↔ c ∈ base58Digits := by
  constructor
  · intro digit
    exact Text.forall_alphanum (P := fun c ↦ isBase58 c = true → c ∈ base58Digits)
      (by decide +kernel) (Bool.and_eq_true_iff.mp digit).1 digit
  · have all : base58Digits.all isBase58 = true := by decide +kernel
    exact List.all_eq_true.mp all c

/-- An EVM address is `0x` with forty hexadecimal digits behind it. -/
theorem isEvm_iff {a : String} : isEvm a = true ↔
    ∃ ds : String, a = "0x" ++ ds ∧ ds.length = 40 ∧ ∀ d ∈ ds.toList, d ∈ hexDigits := by
  constructor
  · intro evm
    unfold isEvm at evm
    split at evm
    next ds text =>
      obtain ⟨long, digits⟩ := Bool.and_eq_true_iff.mp evm
      refine ⟨String.ofList ds, String.toList_inj.mp ?_, ?_, ?_⟩
      · rw [text, String.toList_append, String.toList_ofList, String.toList_ofList]
        rfl
      · rw [String.length_ofList]
        exact of_decide_eq_true long
      · rw [String.toList_ofList]
        exact fun d mem ↦ isDigitIn_iff.mp (List.all_eq_true.mp digits d mem)
    next => cases evm
  · rintro ⟨ds, rfl, long, digits⟩
    have text : ("0x" ++ ds).toList = '0' :: 'x' :: ds.toList := String.toList_append
    rw [isEvm, text]
    refine Bool.and_eq_true_iff.mpr ⟨decide_eq_true ?_, ?_⟩
    · rw [String.length_toList]
      exact long
    · exact List.all_eq_true.mpr fun d mem ↦ isDigitIn_iff.mpr (digits d mem)

/-- A Solana address is a row of 32 to 44 digits of base58. -/
theorem isSolana_iff {a : String} : isSolana a = true ↔
    (32 ≤ a.length ∧ a.length ≤ 44) ∧ ∀ c ∈ a.toList, c ∈ base58Digits := by
  simp only [isSolana, Bool.and_eq_true, decide_eq_true_eq, List.all_eq_true, isBase58_iff,
    String.length_toList]

end Address

namespace Network

variable {a : String}

theorem detect_of_isSolana (solana : Address.isSolana a = true) : detect a none = .solana :=
  if_pos solana

theorem detect_of_not_isSolana (other : Address.isSolana a = false) :
    detect a none = .ethereum :=
  if_neg (Bool.eq_false_iff.mp other)

/-- The network that the look of an address tells is one on which it is an address, if there is
any. -/
theorem isAddress_detect_iff :
    (detect a none).isAddress a = true ↔ Address.isEvm a = true ∨ Address.isSolana a = true := by
  cases solana : Address.isSolana a with
  | true =>
    rw [detect_of_isSolana solana]
    simp [isAddress, isEvm, solana]
  | false =>
    rw [detect_of_not_isSolana solana]
    simp [isAddress, isEvm]

end Network

/-- No reply is taken for a fault of the address. -/
theorem Reply.contract_ne_invalidAddress (r : Reply) (n : Network) (address a : String)
    (m : Network) : r.contract n address ≠ .error (.invalidAddress a m) := by
  intro refused
  cases r with
  | error e =>
    cases e <;> cases refused
  | ok body =>
    rw [contract] at refused
    split at refused
    · rw [Explorer.interpret] at refused
      split at refused
      · cases refused
      next answer _ =>
        split at refused
        · rcases Explorer.Answer.contract_eq_error refused with ⟨e, -⟩ | ⟨⟨_, e⟩, -⟩ <;> cases e
        · cases Explorer.failure_eq_iff.mp (Except.error.inj refused)
    · unfold Account.interpret at refused
      split at refused <;> cases refused

namespace Settings

section Visit

variable (s : Settings) {c : Call} {n : Network} {text : String} (target : c.target = (n, text))
  (reply : Reply)

include target

theorem isOf_visit_of_target : (s.visit c reply).IsOf s n text reply := by
  have made := s.isOf_visit c reply
  rwa [target] at made

/-- A visit is refused for its address just when that is none of the network. -/
theorem visit_eq_invalidAddress_iff {a : String} {m : Network} :
    (s.visit c reply).result = .error (.invalidAddress a m) ↔
      (a = text ∧ m = n) ∧ n.isAddress text = false := by
  have made := s.isOf_visit_of_target target reply
  constructor
  · intro refused
    cases valid : n.isAddress text with
    | false =>
      rw [made.invalid valid] at refused
      cases refused
      exact ⟨⟨rfl, rfl⟩, rfl⟩
    | true =>
      cases endpoint : s.endpoint? n.service with
      | none =>
        rw [made.unsupported valid endpoint] at refused
        cases refused
      | some url =>
        have sent := made.isSome_request.mpr ⟨valid, by rw [endpoint]; rfl⟩
        rw [made.result sent] at refused
        exact absurd refused (reply.contract_ne_invalidAddress n text a m)
  · rintro ⟨⟨rfl, rfl⟩, invalid⟩
    exact made.invalid invalid

/-- For an address of the network its service is asked, if there is one. -/
theorem map_url_visit (valid : n.isAddress text = true) :
    (s.visit c reply).request.map Request.url = s.endpoint? n.service := by
  have made := s.isOf_visit_of_target target reply
  cases request : (s.visit c reply).request with
  | none =>
    cases endpoint : s.endpoint? n.service with
    | none => rfl
    | some url =>
      have sent := made.isSome_request.mpr ⟨valid, by rw [endpoint]; rfl⟩
      rw [request] at sent
      cases sent
  | some r =>
    cases evm : n.isEvm with
    | true =>
      obtain ⟨url, endpoint, rfl⟩ := made.get evm r request
      exact endpoint.symm
    | false =>
      obtain ⟨url, endpoint, rfl⟩ := made.post evm r request
      exact endpoint.symm

end Visit

/-- A call without a hint asks Ethereum's service for an EVM address and Solana's for a Solana
address, with white space around it or not. Any other text is refused as no address on Ethereum, and
then only. -/
theorem visit_detected (a : String) :
    (Address.isEvm a = true ↔
      ∃ ds : String, a = "0x" ++ ds ∧ ds.length = 40 ∧ ∀ d ∈ ds.toList, d ∈ Address.hexDigits) ∧
    (Address.isSolana a = true ↔
      (32 ≤ a.length ∧ a.length ≤ 44) ∧ ∀ c ∈ a.toList, c ∈ Address.base58Digits) ∧
    ¬(Address.isEvm a = true ∧ Address.isSolana a = true) ∧
    ∀ (s : Settings) (reply : Reply),
      let text := Text.trim a
      let v := s.visit (.detected a none) reply
      ((∃ x n, v.result = .error (.invalidAddress x n)) ↔
        Address.isEvm text = false ∧ Address.isSolana text = false) ∧
      (∀ x n, v.result = .error (.invalidAddress x n) →
        x = text ∧ n = .ethereum ∧ v.request = none) ∧
      (Address.isEvm text = true → Network.ethereum.isAddress text = true ∧
        v.request.map Request.url = s.endpoint? Network.ethereum.service ∧
        v.IsOf s .ethereum text reply) ∧
      (Address.isSolana text = true → Network.solana.isAddress text = true ∧
        v.request.map Request.url = s.endpoint? Network.solana.service ∧
        v.IsOf s .solana text reply) := by
  refine ⟨Address.isEvm_iff, Address.isSolana_iff, ?_, fun s reply ↦ ?_⟩
  · rintro ⟨evm, solana⟩
    rw [Address.isSolana_of_isEvm evm] at solana
    cases solana
  intro text v
  have target : (Call.detected a none).target = (Network.detect text none, text) := rfl
  have valid := Network.isAddress_detect_iff (a := text)
  have asked (n : Network) (told : Network.detect text none = n)
      (either : Address.isEvm text = true ∨ Address.isSolana text = true) :
      n.isAddress text = true ∧ v.request.map Request.url = s.endpoint? n.service ∧
        v.IsOf s n text reply := by
    rw [told] at target valid
    exact ⟨valid.mpr either, s.map_url_visit target reply (valid.mpr either),
      s.isOf_visit_of_target target reply⟩
  have refused (x : String) (n : Network) : v.result = .error (.invalidAddress x n) ↔
      (x = text ∧ n = Network.detect text none) ∧
        (Network.detect text none).isAddress text = false :=
    s.visit_eq_invalidAddress_iff target reply
  have invalid : (Network.detect text none).isAddress text = false ↔
      Address.isEvm text = false ∧ Address.isSolana text = false := by
    rw [← Bool.not_eq_true, valid, not_or, Bool.not_eq_true, Bool.not_eq_true]
  refine ⟨⟨?_, ?_⟩, ?_, ?_, ?_⟩
  · rintro ⟨x, n, error⟩
    exact invalid.mp ((refused x n).mp error).2
  · intro neither
    exact ⟨text, _, (refused text _).mpr ⟨⟨rfl, rfl⟩, invalid.mpr neither⟩⟩
  · intro x n error
    obtain ⟨⟨same, told⟩, none⟩ := (refused x n).mp error
    refine ⟨same, told.trans (Network.detect_of_not_isSolana (invalid.mp none).2), ?_⟩
    have sent := (s.isOf_visit_of_target target reply).isSome_request
    rw [none] at sent
    exact Option.not_isSome_iff_eq_none.mp fun some ↦ Bool.false_ne_true (sent.mp some).1
  · intro evm
    have other := Address.isSolana_of_isEvm evm
    exact asked .ethereum (Network.detect_of_not_isSolana other) (.inl evm)
  · intro solana
    exact asked .solana (Network.detect_of_isSolana solana) (.inr solana)

/-- White space around an address does not count, and a digit too few does. -/
theorem visit_detected_padded :
    let padded := "\t0x2791Bca1f2de4661ED88A30C99A7a9449Aa84174 \n"
    let program := "BPFLoaderUpgradeab1e11111111111111111111111"
    let short := "0x2791Bca1f2de4661ED88A30C99A7a9449Aa8417"
    let visit := fun a ↦ standard.visit (.detected a none) (.ok "")
    Address.isEvm (Text.trim padded) = true ∧
      (visit padded).request.map Request.url = some "https://api.etherscan.io/api" ∧
      Address.isSolana (Text.trim program) = true ∧
      (visit program).request.map Request.url = some "https://api.mainnet-beta.solana.com" ∧
      (visit short).result = .error (.invalidAddress short .ethereum) ∧
      (visit short).request = none := by
  intro padded program short visit
  have evm : Address.isEvm (Text.trim padded) = true := by decide +kernel
  have solana : Address.isSolana (Text.trim program) = true := by decide +kernel
  have neither : Address.isEvm (Text.trim short) = false ∧
      Address.isSolana (Text.trim short) = false := by decide +kernel
  have trimmed : Text.trim short = short := by decide +kernel
  obtain ⟨-, asked, -⟩ := ((visit_detected padded).2.2.2 standard (.ok "")).2.2.1 evm
  obtain ⟨-, asked', -⟩ := ((visit_detected program).2.2.2 standard (.ok "")).2.2.2 solana
  obtain ⟨refused, about, -⟩ := (visit_detected short).2.2.2 standard (.ok "")
  obtain ⟨x, n, error⟩ := refused.mpr neither
  obtain ⟨same, network, unsent⟩ := about x n error
  rw [same, network, trimmed] at error
  exact ⟨evm, asked, solana, asked', error, unsent⟩

end Settings

end ContractScan
