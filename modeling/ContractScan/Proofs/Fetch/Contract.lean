import ContractScan.Proofs.Fetch.Explorer
import ContractScan.Proofs.Fetch.Session
import ContractScan.Proofs.Network.Address

/-!
# What is fetched

However a service replies, a contract that comes of it is the one that was asked for, has a source,
and says of itself what is the case (`Contract.IsOf`). The text of a bundle is never blank
because each file stands under a header.
-/

namespace ContractScan

namespace Text

theorem allBlank_append_of_left {s : String} (h : allBlank s = false) (t : String) :
    allBlank (s ++ t) = false := by
  rw [allBlank, String.toList_append, List.all_append]
  exact Bool.and_eq_false_imp.mpr fun blank ↦ absurd blank (Bool.eq_false_iff.mp h)

theorem nonBlank?_eq_some {s t : String} (h : nonBlank? s = some t) :
    t = s ∧ allBlank t = false := by
  unfold nonBlank? at h
  split at h
  next => cases h
  next said =>
    cases h
    exact ⟨rfl, Bool.eq_false_iff.mpr said⟩

theorem allBlank_nonBlank?_getD (s : String) {t : String} (h : allBlank t = false) :
    allBlank ((nonBlank? s).getD t) = false := by
  cases said : nonBlank? s with
  | none => exact h
  | some u => exact (nonBlank?_eq_some said).2

end Text

namespace SourceBundle

theorem allBlank_layOut (f : File) : Text.allBlank f.layOut = false := by
  simp only [File.layOut, String.append_assoc]
  exact Text.allBlank_append_of_left (by decide +kernel) _

/-- A source that says something does so after unpacking, even if all its files are empty. -/
theorem allBlank_unpack {raw : String} (h : Text.allBlank raw = false) :
    Text.allBlank (unpack raw) = false := by
  unfold unpack
  split
  next fs files =>
    obtain ⟨-, some⟩ := Option.filter_eq_some_iff.mp files
    cases fs with
    | nil => cases some
    | cons f fs =>
      rw [List.map_cons, String.join_cons]
      exact Text.allBlank_append_of_left (allBlank_layOut f) _
  next => exact h

end SourceBundle

namespace Contract

/-- The contract is the one at the address on the network, and what it says is so. -/
structure IsOf (n : Network) (address : String) (c : Contract) : Prop where
  address : c.address = address
  network : c.network = n
  isAddress : c.network.isAddress c.address = true
  /-- Verified source is what the EVM networks have, and it is what can be analysed. -/
  verified : c.verified = c.network.isEvm
  analyzable : c.analyzable = c.network.isEvm
  source : Text.allBlank c.source = false
  name : Text.allBlank c.name = false
  compiler : Text.allBlank c.compiler = false
  abi : ∀ t ∈ c.abi, Text.allBlank t = false ∧ t ≠ Explorer.unverifiedAbi
  constructorArguments : ∀ t ∈ c.constructorArguments, Text.allBlank t = false
  /-- The page leads back to the address and the network. -/
  page : Network.ofPage? c.page = some (c.address, c.network)

end Contract

namespace Explorer

variable {n : Network} {address : String}

theorem isOf_contract (e : Entry) (evm : n.isEvm = true) (valid : n.isAddress address = true)
    (said : Text.allBlank e.source = false) : (e.contract n address).IsOf n address where
  address := rfl
  network := rfl
  isAddress := valid
  verified := evm.symm
  analyzable := evm.symm
  source := SourceBundle.allBlank_unpack said
  name := Text.allBlank_nonBlank?_getD e.name (by decide +kernel)
  compiler := Text.allBlank_nonBlank?_getD e.compiler (by decide +kernel)
  abi t mem := by
    obtain ⟨there, other⟩ := Option.filter_eq_some_iff.mp mem
    exact ⟨(Text.nonBlank?_eq_some there).2, bne_iff_ne.mp other⟩
  constructorArguments _ mem := (Text.nonBlank?_eq_some mem).2
  page := Network.ofPage?_explorerPage valid

/-- A contract comes only of an entry that has a source. -/
theorem interpret_eq_ok {body : String} {k : Contract} (h : interpret n address body = .ok k) :
    ∃ e : Entry, Text.allBlank e.source = false ∧ k = e.contract n address := by
  unfold interpret at h
  split at h
  next => cases h
  next a _ =>
    by_cases success : a.status = "1"
    · rw [if_pos success] at h
      obtain ⟨-, -, e, -, -, said, rfl⟩ := Answer.contract_eq_ok_iff.mp h
      exact ⟨e, said, rfl⟩
    · rw [if_neg success] at h
      cases h

end Explorer

namespace Account

variable {address : String}

theorem isOf_contract (owner : String) (valid : Network.solana.isAddress address = true) :
    (contract address owner).IsOf .solana address where
  address := rfl
  network := rfl
  isAddress := valid
  verified := rfl
  analyzable := rfl
  source := by
    simp only [contract, note, String.append_assoc]
    split <;> exact Text.allBlank_append_of_left (by decide +kernel) _
  name := show Text.allBlank "Solana Program" = false by decide +kernel
  compiler := show Text.allBlank "Unknown" = false by decide +kernel
  abi := nofun
  constructorArguments := nofun
  page := Network.ofPage?_explorerPage valid

/-- A contract comes only of an account with an owner. -/
theorem interpret_eq_ok {body : String} {k : Contract} (h : interpret address body = .ok k) :
    ∃ owner, k = contract address owner := by
  unfold interpret at h
  split at h
  next => cases h
  next => cases h
  next => cases h
  next =>
    cases h
    exact ⟨_, rfl⟩

end Account

namespace Settings

/-- Whatever comes back, a contract that is fetched is the one at the address that was asked for:
the address is one on its network, the source and the names say something, it is verified and can be
analysed on the EVM networks only, and its page leads back to it. -/
theorem isOf_of_visit (s : Settings) (c : Call) (reply : Reply) (k : Contract)
    (h : (s.visit c reply).result = .ok k) : k.IsOf c.target.1 c.target.2 := by
  have visit := s.isOf_visit c reply
  cases valid : c.target.1.isAddress c.target.2 with
  | false =>
    rw [visit.invalid valid] at h
    cases h
  | true =>
    cases endpoint : s.endpoint? c.target.1.service with
    | none =>
      rw [visit.unsupported valid endpoint] at h
      cases h
    | some url =>
      rw [visit.result (visit.isSome_request.mpr ⟨valid, by rw [endpoint]; rfl⟩)] at h
      cases reply with
      | error e => cases h
      | ok body =>
        rw [Reply.contract] at h
        cases evm : c.target.1.isEvm with
        | true =>
          rw [evm] at h
          obtain ⟨e, said, rfl⟩ := Explorer.interpret_eq_ok h
          exact Explorer.isOf_contract e evm valid said
        | false =>
          rw [evm] at h
          have solana := Network.isEvm_eq_false evm
          obtain ⟨owner, rfl⟩ := Account.interpret_eq_ok h
          rw [solana] at valid ⊢
          exact Account.isOf_contract owner valid

/-- An explorer that tells the source alone. -/
theorem isOf_of_visit_bscscan :
    let address := "0x2791Bca1f2de4661ED88A30C99A7a9449Aa84174"
    let call := Call.detected (" " ++ address ++ "\n") (some "BSC")
    let reply := "\x7b\"status\":\"1\",\"result\":[\x7b\"SourceCode\":\"contract C\"\x7d]\x7d"
    let contract : Contract := {
      address, source := "contract C", name := "Unknown", compiler := "Unknown", network := .bsc,
      verified := true, page := "https://bscscan.com/address/" ++ address, abi := none,
      constructorArguments := none }
    call.target = (.bsc, address) ∧ (standard.visit call (.ok reply)).result = .ok contract ∧
      contract.IsOf .bsc address := by
  intro address call reply contract
  have target : call.target = (.bsc, address) := by decide +kernel
  have fetched : (standard.visit call (.ok reply)).result = .ok contract := by
    decide +kernel
  have sound := isOf_of_visit standard call (.ok reply) contract fetched
  rw [target] at sound
  exact ⟨target, fetched, sound⟩

end Settings

end ContractScan
