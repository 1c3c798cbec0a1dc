import ContractScan.Fetch.Explorer
import ContractScan.Proofs.Text.Mention

/-!
# What the answer of an explorer means

An answer brings a contract just when it is a success whose first entry is a record with a source.
What any other answer means is decided by its two texts, of which neither the order nor the case of
letters counts (`interpret_of_parse?`).
-/

namespace ContractScan.Explorer

/-- One of the texts says the word, in any case of its ASCII letters. -/
def Says (message result word : String) : Prop :=
  word.toList <:+: message.toList.map Char.toLower ∨ word.toList <:+: result.toList.map Char.toLower

/-- What a failure with the texts is due to. Where they say several words, the first cause
counts. -/
inductive DueTo (n : Network) (address message result : String) : FetchError → Prop
  | key (said : Says message result "invalid api key") :
      DueTo n address message result (.invalidKey n)
  | source (key : ¬Says message result "invalid api key")
      (said : Says message result "not verified") :
      DueTo n address message result (.notVerified n address)
  | rate (key : ¬Says message result "invalid api key")
      (source : ¬Says message result "not verified") (said : Says message result "rate limit") :
      DueTo n address message result (.rateLimited n)
  | other (key : ¬Says message result "invalid api key")
      (source : ¬Says message result "not verified") (rate : ¬Says message result "rate limit") :
      DueTo n address message result
        (.serviceFailure n (if result = "" then message else message ++ ": " ++ result))

section Failure

variable {n : Network} {address message result message' result' : String} {e e' : FetchError}

theorem mentions_or_iff {word : String} :
    (Text.mentions message word || Text.mentions result word) = true ↔
      Says message result word := by
  rw [Bool.or_eq_true, Text.mentions_iff, Text.mentions_iff, Says]

instance (message result word : String) : Decidable (Says message result word) :=
  decidable_of_iff _ mentions_or_iff

theorem failure_eq (n : Network) (address message result : String) :
    failure n address message result =
      if Says message result "invalid api key" then .invalidKey n
      else if Says message result "not verified" then .notVerified n address
      else if Says message result "rate limit" then .rateLimited n
      else .serviceFailure n (if result = "" then message else message ++ ": " ++ result) := by
  simp only [← mentions_or_iff, ← String.isEmpty_iff]
  rfl

/-- A failure is due to one cause. -/
theorem failure_eq_iff :
    failure n address message result = e ↔ DueTo n address message result e := by
  rw [failure_eq]
  constructor
  · rintro rfl
    split
    next key => exact .key key
    next key =>
      split
      next source => exact .source key source
      next source =>
        split
        next rate => exact .rate key source rate
        next rate => exact .other key source rate
  · rintro (key | ⟨key, source⟩ | ⟨key, source, rate⟩ | ⟨key, source, rate⟩)
    · exact if_pos key
    · rw [if_neg key, if_pos source]
    · rw [if_neg key, if_neg source, if_pos rate]
    · rw [if_neg key, if_neg source, if_neg rate]

theorem says_iff_lowerAscii {word : String} :
    Says message result word ↔
      word.toList <:+: (Text.lowerAscii message).toList ∨
        word.toList <:+: (Text.lowerAscii result).toList := by
  simp only [Says, Text.lowerAscii, String.toList_ofList]

/-- Neither the order of the texts nor the case of letters counts for what they say. -/
theorem says_congr
    (same : Text.lowerAscii message' = Text.lowerAscii message ∧
        Text.lowerAscii result' = Text.lowerAscii result ∨
      Text.lowerAscii message' = Text.lowerAscii result ∧
        Text.lowerAscii result' = Text.lowerAscii message) (word : String) :
    Says message' result' word ↔ Says message result word := by
  simp only [says_iff_lowerAscii]
  rcases same with ⟨message, result⟩ | ⟨message, result⟩
  · rw [message, result]
  · rw [message, result, or_comm]

/-- Texts that say the same words fail for the same cause. -/
theorem ctorIdx_failure (same : ∀ word, Says message result word ↔ Says message' result' word) :
    (failure n address message result).ctorIdx = (failure n address message' result').ctorIdx := by
  simp only [failure_eq, apply_ite FetchError.ctorIdx, same]
  rfl

end Failure

section Answer

variable {n : Network} {address : String} {a : Answer}

/-- A success brings the contract of its first entry if that is a record with a source. -/
theorem Answer.contract_eq_ok_iff {k : Contract} :
    a.contract n address = .ok k ↔
      ∃ first rest e, a.result = .array (first :: rest) ∧ Entry.ofJson? first = some e ∧
        Text.allBlank e.source = false ∧ e.contract n address = k := by
  constructor
  · intro made
    unfold contract at made
    split at made
    next first rest result =>
      split at made
      next => cases made
      next e entry =>
        cases said : Text.allBlank e.source with
        | true =>
          rw [said] at made
          cases made
        | false =>
          rw [said] at made
          cases made
          exact ⟨first, rest, e, result, entry, said, rfl⟩
    next => cases made
  · rintro ⟨first, rest, e, result, entry, said, rfl⟩
    simp [contract, result, entry, said]

/-- A success without a contract has no first entry, or one without a source, or one that is no
record. -/
theorem Answer.contract_eq_error {e : FetchError} (failed : a.contract n address = .error e) :
    (e = .notVerified n address ∧ ∀ first rest, a.result = .array (first :: rest) →
        ∃ entry, Entry.ofJson? first = some entry ∧ Text.allBlank entry.source = true) ∨
    (∃ detail, e = .serviceFailure n ("unexpected result layout: " ++ detail)) ∧
      ∃ first rest, a.result = .array (first :: rest) ∧ Entry.ofJson? first = none := by
  unfold contract at failed
  split at failed
  next first rest result =>
    split at failed
    next unread =>
      cases failed
      have text : "unexpected result layout: the first entry is no record of texts" =
          "unexpected result layout: " ++ "the first entry is no record of texts" := by
        decide +kernel
      exact .inr ⟨⟨_, congrArg _ text⟩, first, rest, result, unread⟩
    next entry read =>
      split at failed
      next blank =>
        cases failed
        refine .inl ⟨rfl, fun first' rest' result' ↦ ?_⟩
        cases result.symm.trans result'
        exact ⟨entry, read, blank⟩
      next => cases failed
  next none =>
    cases failed
    exact .inl ⟨rfl, fun first rest result ↦ absurd result (none first rest)⟩

theorem interpret_of_success {body : String} (read : Answer.parse? body = some a)
    (success : a.status = "1") : interpret n address body = a.contract n address := by
  rw [interpret, read]
  exact if_pos success

theorem interpret_of_failure {body : String} (read : Answer.parse? body = some a)
    (failed : a.status ≠ "1") :
    interpret n address body =
      .error (failure n address (a.message.getD "Unknown error") (a.result.text?.getD "")) := by
  rw [interpret, read]
  exact if_neg failed

end Answer

/-- An answer brings a contract just when it is a success whose first entry is a record with a
source. A success fails otherwise for want of a source or for its layout, and any other answer for
what its texts say, where neither their order nor the case of letters counts. -/
theorem interpret_of_parse? (n : Network) (address : String) {body : String} {a : Answer}
    (read : Answer.parse? body = some a) :
    let message := a.message.getD "Unknown error"
    let result := a.result.text?.getD ""
    ((∃ c, interpret n address body = .ok c) ↔
      a.status = "1" ∧ ∃ first rest e, a.result = .array (first :: rest) ∧
        Entry.ofJson? first = some e ∧ Text.allBlank e.source = false) ∧
    (a.status = "1" → ∀ e, interpret n address body = .error e →
      e = .notVerified n address ∨
        ∃ detail, e = .serviceFailure n ("unexpected result layout: " ++ detail)) ∧
    (a.status ≠ "1" → ∀ e,
      interpret n address body = .error e ↔ DueTo n address message result e) ∧
    ∀ body' a', Answer.parse? body' = some a' → a.status ≠ "1" → a'.status ≠ "1" →
      let message' := a'.message.getD "Unknown error"
      let result' := a'.result.text?.getD ""
      (Text.lowerAscii message' = Text.lowerAscii message ∧
          Text.lowerAscii result' = Text.lowerAscii result ∨
        Text.lowerAscii message' = Text.lowerAscii result ∧
          Text.lowerAscii result' = Text.lowerAscii message) →
      ∃ e e', interpret n address body = .error e ∧ interpret n address body' = .error e' ∧
        e'.ctorIdx = e.ctorIdx := by
  intro message result
  refine ⟨⟨?_, ?_⟩, ?_, ?_, ?_⟩
  · rintro ⟨c, made⟩
    by_cases success : a.status = "1"
    · rw [interpret_of_success read success] at made
      obtain ⟨first, rest, e, entries, entry, said, -⟩ := Answer.contract_eq_ok_iff.mp made
      exact ⟨success, first, rest, e, entries, entry, said⟩
    · rw [interpret_of_failure read success] at made
      cases made
  · rintro ⟨success, first, rest, e, entries, entry, said⟩
    rw [interpret_of_success read success]
    exact ⟨_, Answer.contract_eq_ok_iff.mpr ⟨first, rest, e, entries, entry, said, rfl⟩⟩
  · intro success e failed
    rw [interpret_of_success read success] at failed
    exact (Answer.contract_eq_error failed).imp And.left And.left
  · intro failed e
    rw [interpret_of_failure read failed, Except.error.injEq]
    exact failure_eq_iff
  · intro body' a' read' failed failed' message' result' same
    exact ⟨_, _, interpret_of_failure read failed, interpret_of_failure read' failed',
      ctorIdx_failure (says_congr same)⟩

/-- A reply says that the rate is too high, that the source is not verified, and that the key is
not valid. The key comes first, in whichever of its texts. -/
theorem interpret_of_parse?_key :
    let reply := "\x7b\"result\":\"Rate Limit, source NOT verified\"," ++
      "\"message\":\"INVALID API Key\",\"status\":\"01\"\x7d"
    let swapped := "[\"0\",\"rate limit, source not verified\",\"Invalid API key\"]"
    interpret .bsc "0x0" reply = .error (.invalidKey .bsc) ∧
      ∃ e, interpret .bsc "0x0" swapped = .error e ∧
        e.ctorIdx = (FetchError.invalidKey .bsc).ctorIdx := by
  intro reply swapped
  have texts : (Answer.parse? reply).map (fun a ↦ (a.status, a.message, a.result.text?)) =
      some ("01", some "INVALID API Key", some "Rate Limit, source NOT verified") := by
    decide +kernel
  have others : (Answer.parse? swapped).map (fun a ↦ (a.status, a.message, a.result.text?)) =
      some ("0", some "rate limit, source not verified", some "Invalid API key") := by
    decide +kernel
  obtain ⟨a, read, texts⟩ := Option.map_eq_some_iff.mp texts
  obtain ⟨a', read', others⟩ := Option.map_eq_some_iff.mp others
  simp only [Prod.mk.injEq] at texts others
  obtain ⟨status, message, result⟩ := texts
  obtain ⟨status', message', result'⟩ := others
  obtain ⟨-, -, means, variants⟩ := interpret_of_parse? .bsc "0x0" read
  have failed : a.status ≠ "1" := status ▸ by decide
  have failed' : a'.status ≠ "1" := status' ▸ by decide
  have key : interpret .bsc "0x0" reply = .error (.invalidKey .bsc) := by
    refine (means failed _).mpr (.key ?_)
    rw [message, result]
    decide +kernel
  obtain ⟨e, e', here, there, same⟩ := variants swapped a' read' failed failed' (.inr (by
    rw [message, result, message', result']
    decide +kernel))
  cases key.symm.trans here
  exact ⟨key, e', there, same⟩

end ContractScan.Explorer
