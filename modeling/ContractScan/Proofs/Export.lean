import ContractScan.Proofs.Json.Settle
import ContractScan.Proofs.Json.Writer
import ContractScan.Proofs.Traversal
import ContractScan.Settings.Document

/-!
# Exported records are read back

A finding and settings are decoded from the values that they are exported as, and so they are from
the texts that these values are written as (`exports_read_back`). A service is written without the
fields that are not set, and settings are read with the defaults of the sections that are left out
(`Settings.ofJson?_only`).
-/

namespace ContractScan

namespace Json

variable {α β : Type}

/-! ### Values that are decoded -/

theorem text?_text (t : String) : text? (.text t) = some t := rfl

theorem word?_nat {n : Nat} (word : n < UInt64.size) : word? (nat n) = some n := by
  simp [word?, nat?, nat, Number.toInt?, word]

@[simp] theorem uint64?_uint64 (w : UInt64) : uint64? (uint64 w) = some w := by
  rw [uint64?, uint64, word?_nat w.toNat_lt, Option.map_some, UInt64.ofNat_toNat]

@[simp] theorem worded_uint64 (w : UInt64) : worded (uint64 w) = true := worded_nat w.toNat_lt

@[simp] theorem nullable_optText (t : Option String) :
    Record.nullable text? (optText t) = some t := by
  cases t <;> rfl

theorem nullable_optNat {n : Option Nat} (word : ∀ k ∈ n, k < UInt64.size) :
    Record.nullable word? (optNat n) = some n := by
  cases n with
  | none => rfl
  | some n => exact congrArg (Option.map some) (word?_nat (word n rfl))

/-- Items that are each decoded are decoded together. -/
theorem list?_map {encode : β → Json} {decode : Json → Option β} {bs : List β}
    (each : ∀ b ∈ bs, decode (encode b) = some b) :
    list? decode (.array (bs.map encode)) = some bs := by
  rw [list?, mapM_eq_some_iff, List.map_map]
  exact List.map_congr_left each

/-- Members that are each decoded are decoded together. -/
theorem keyed?_map {encode : β → Json} {decode : Json → Option β} {m : Keyed β}
    (each : ∀ b, decode (encode b) = some b) :
    keyed? decode (.object (m.entries.map fun e ↦ (e.1, encode e.2))) = some m := by
  have members : (m.entries.map fun e ↦ (e.1, encode e.2)).mapM
      (fun e ↦ (decode e.2).map fun b ↦ (e.1, b)) = some m.entries := by
    rw [mapM_eq_some_iff, List.map_map]
    exact List.map_congr_left fun e _ ↦ by simp [each]
  rw [keyed?, members?, Option.bind_eq_bind, Option.bind_some, members, Option.bind_eq_bind,
    Option.bind_some, Keyed.ofList_entries]
  rfl

/-! ### Fields of records -/

section Fields

variable {ms : List (String × Json)} {names : List String} {name : String} {r : Record}
variable {decode : Json → Option α} {j : Json} {a : α}

/-- A record that is written with fields of these names, in order, is found with all of them. -/
theorem record?_object (order : (ms.map Prod.fst).Sublist names) (nodup : names.Nodup)
    (surplus : Bool) : (Json.object ms).record? surplus names = some ⟨ms, false⟩ := by
  have known : ms.filter (fun m ↦ names.contains m.1) = ms :=
    List.filter_eq_self.mpr fun m mem ↦
      List.contains_iff_mem.mpr (order.subset (List.mem_map_of_mem mem))
  rw [record?, known, if_pos (order.nodup nodup)]

theorem Record.required_of_given (given : r.given? name = some j) (decoded : decode j = some a) :
    r.required name decode = some a := by
  rw [required, given]
  exact decoded

theorem Record.optional_of_given {o : Option α} (given : r.given? name = some j)
    (decoded : nullable decode j = some o) : r.optional name decode = some o := by
  rw [optional, given]
  exact decoded

theorem Record.defaulted_of_given (given : r.given? name = some j) (decoded : decode j = some a)
    (default : α) : r.defaulted name default decode = some a := by
  rw [defaulted, given]
  exact decoded

/-- A field that is written when it is set is decoded to what it was set to. -/
theorem Record.defaulted_of_map {encode : α → Json} {o : Option α}
    (given : r.given? name = o.map encode)
    (each : ∀ a, nullable decode (encode a) = some (some a)) :
    r.defaulted name none (nullable decode) = some o := by
  rw [defaulted, given]
  cases o with
  | none => rfl
  | some a => exact each a

/-- The object with only the members of the given names. -/
def only (names : List String) : Json → Json
  | .object ms => .object (ms.filter fun m ↦ names.contains m.1)
  | j => j

/-- A field that is left out is decoded to its default. -/
theorem Record.defaulted_only {default : α} (there : ms.lookup name = some j)
    (decoded : decode j = some a) :
    Record.defaulted ⟨ms.filter fun m ↦ names.contains m.1, false⟩ name default decode =
      some (if name ∈ names then a else default) := by
  split
  next kept =>
    refine defaulted_of_given ?_ decoded default
    rw [given?, Keyed.lookup_filter_of_mem kept, there]
  next left =>
    have missing : (ms.filter fun m ↦ names.contains m.1).lookup name = none := by
      apply Keyed.lookup_of_not_mem
      simp [left]
    rw [defaulted, given?, missing]

end Fields

end Json

namespace Finding

variable {f : Finding}

/-- A finding is decoded from the value that it is exported as. -/
theorem ofJson?_toJson (word : ∀ n ∈ f.line, n < UInt64.size) : ofJson? f.toJson = some f := by
  have severity : Severity.ofJson? f.severity.toJson = some f.severity :=
    Severity.ofName?_name f.severity
  have line := Json.nullable_optNat word
  rw [ofJson?, toJson, Json.record?_object, Option.bind_eq_bind, Option.bind_some]
  · rw [Json.Record.required_of_given rfl (Json.text?_text f.weakness),
      Json.Record.required_of_given rfl severity, Json.Record.optional_of_given rfl line,
      Json.Record.required_of_given rfl (Json.text?_text f.snippet),
      Json.Record.required_of_given rfl (Json.text?_text f.description),
      Json.Record.required_of_given rfl (Json.text?_text f.explanation),
      Json.Record.required_of_given rfl (Json.text?_text f.recommendation),
      Json.Record.optional_of_given rfl (Json.nullable_optText f.cwe),
      Json.Record.optional_of_given rfl (Json.nullable_optText f.swc)]
    rfl
  · exact .refl _
  · decide

theorem worded_toJson (word : ∀ n ∈ f.line, n < UInt64.size) : f.toJson.worded = true := by
  simp [toJson, Json.worded, Json.wordedMembers, Severity.toJson, Json.worded_optNat word]

end Finding

namespace FetchSettings

theorem ofJson?_toJson (n : Dialect) (s : FetchSettings) : ofJson? n s.toJson = some s := by
  rw [ofJson?, toJson, Json.record?_object, Option.bind_eq_bind, Option.bind_some]
  · rw [Json.Record.defaulted_of_given rfl (Json.uint64?_uint64 s.timeoutSeconds),
      Json.Record.defaulted_of_given rfl (Json.uint64?_uint64 s.interval),
      Json.Record.defaulted_of_given rfl (Json.text?_text s.userAgent)]
    rfl
  · exact .refl _
  · decide

end FetchSettings

namespace ReportSettings

theorem ofJson?_toJson (n : Dialect) (s : ReportSettings) : ofJson? n s.toJson = some s := by
  have severity :
      Json.choice? n.saysNothing Severity.ofName? s.minSeverity.toJson = some s.minSeverity :=
    Severity.ofName?_name s.minSeverity
  rw [ofJson?, toJson, Json.record?_object, Option.bind_eq_bind, Option.bind_some]
  · rw [Json.Record.defaulted_of_given rfl severity]
    rfl
  · exact .refl _
  · decide

end ReportSettings

namespace Service

variable (s : Service)

/-- Of the fields that may be missing those are written that are set. -/
theorem get?_toJson :
    s.toJson.get? "endpoint" = some (.text s.endpoint) ∧
      s.toJson.get? "api_key" = s.key.map .text ∧
      s.toJson.get? "chain_id" = s.chainId.map .uint64 ∧
      s.toJson.get? "api_key_env" = s.keyVariable.map .text := by
  obtain ⟨endpoint, key, chainId, keyVariable⟩ := s
  cases key <;> cases chainId <;> cases keyVariable <;> exact ⟨rfl, rfl, rfl, rfl⟩

/-- The fields that are written keep their order. -/
theorem exists_toJson_eq_object :
    ∃ ms, s.toJson = .object ms ∧ (ms.map Prod.fst).Sublist fieldNames := by
  refine ⟨_, rfl, ?_⟩
  have field {α : Type} (name : String) (encode : α → Json) (o : Option α) :
      ((o.map fun a ↦ (name, encode a)).toList.map Prod.fst).Sublist [name] := by
    cases o <;> simp
  simp only [List.map_append]
  exact (((List.Sublist.refl ["endpoint"]).append (field _ _ _)).append (field _ _ _)).append
    (field _ _ _)

/-- A service is decoded from the value that it is exported as. -/
theorem ofJson?_toJson : ofJson? s.toJson = some s := by
  obtain ⟨endpoint, key, chainId, keyVariable⟩ := get?_toJson s
  obtain ⟨ms, same, order⟩ := exists_toJson_eq_object s
  rw [same] at endpoint key chainId keyVariable
  let r : Json.Record := ⟨ms, false⟩
  have endpoint : r.required "endpoint" Json.text? = some s.endpoint :=
    congrArg (·.bind Json.text?) endpoint
  have key : r.defaulted "api_key" none (Json.Record.nullable Json.text?) = some s.key :=
    Json.Record.defaulted_of_map key fun _ ↦ rfl
  have chainId : r.defaulted "chain_id" none (Json.Record.nullable Json.uint64?) = some s.chainId :=
    Json.Record.defaulted_of_map chainId fun w ↦
      congrArg (Option.map some) (Json.uint64?_uint64 w)
  have keyVariable :
      r.defaulted "api_key_env" none (Json.Record.nullable Json.text?) = some s.keyVariable :=
    Json.Record.defaulted_of_map keyVariable fun _ ↦ rfl
  rw [ofJson?, same, Json.record?_object order (by decide)]
  simp [r, endpoint, key, chainId, keyVariable]

theorem worded_toJson : s.toJson.worded = true := by
  have field {α : Type} (name : String) (encode : α → Json) (o : Option α)
      (each : ∀ a, (encode a).worded = true) :
      (o.map fun a ↦ (name, encode a)).toList.all (fun m ↦ m.2.worded) = true := by
    cases o <;> simp [each]
  rw [toJson, Json.worded, Json.wordedMembers_eq_all]
  simp [field]

end Service

namespace Settings

variable (s : Settings)

/-- Settings are decoded with the defaults of the sections that are left out. -/
theorem ofJson?_only (names : List String) :
    ofJson? (s.toJson.only names) = some {
      fetch := if "fetch" ∈ names then s.fetch else standard.fetch
      report := if "analysis" ∈ names then s.report else standard.report
      services := if "services" ∈ names then s.services else standard.services } := by
  have fetch := FetchSettings.ofJson?_toJson .json s.fetch
  have report := ReportSettings.ofJson?_toJson .json s.report
  have services := Json.keyed?_map (m := s.services) Service.ofJson?_toJson
  rw [ofJson?, toJson, Json.only, Json.record?_object, Option.bind_eq_bind, Option.bind_some]
  · rw [Json.Record.defaulted_only rfl fetch, Json.Record.defaulted_only rfl report,
      Json.Record.defaulted_only rfl services]
    rfl
  · exact List.filter_sublist.map Prod.fst
  · decide

example : Settings.ofJson? (.object []) = some .standard := rfl

/-- Settings are decoded from the value that they are exported as. -/
theorem ofJson?_toJson : ofJson? s.toJson = some s :=
  ofJson?_only s ["fetch", "analysis", "services"]

theorem worded_toJson : s.toJson.worded = true := by
  simp [toJson, Json.worded, Json.wordedMembers, FetchSettings.toJson, ReportSettings.toJson,
    Severity.toJson, Json.wordedMembers_eq_all, Service.worded_toJson]

end Settings

namespace Json

/-- The value is decoded, and so is each text that it is written as: on one line, or on several
inside any number of levels. -/
structure ReadsBack {α : Type} (decode : Json → Option α) (j : Json) (a : α) : Prop where
  value : decode j = some a
  line : (scan? j.render).bind decode = some a
  lines : ∀ level, (scan? (j.pretty level)).bind decode = some a

theorem readsBack_of_worded {α : Type} {decode : Json → Option α} {j : Json} {a : α}
    (words : j.worded = true) (decoded : decode j = some a) : ReadsBack decode j a where
  value := decoded
  line := by rw [scan?_render words, Option.bind_some, decoded]
  lines level := by rw [scan?_pretty words, Option.bind_some, decoded]

end Json

/-- Exported findings, lists of findings and settings are read back unchanged, whatever texts they
hold. Fields of services that are not set are not written, and sections of settings that are left
out take their defaults. -/
theorem exports_read_back :
    (∀ f : Finding, (∀ n ∈ f.line, n < UInt64.size) →
      Json.ReadsBack Finding.ofJson? f.toJson f) ∧
    (∀ fs : List Finding, (∀ f ∈ fs, ∀ n ∈ f.line, n < UInt64.size) →
      Json.ReadsBack (Json.list? Finding.ofJson?) (.array (fs.map Finding.toJson)) fs) ∧
    (∀ s : Settings, Json.ReadsBack Settings.ofJson? s.toJson s) ∧
    (∀ s : Service, s.toJson.get? "api_key" = s.key.map .text ∧
      s.toJson.get? "chain_id" = s.chainId.map .uint64 ∧
      s.toJson.get? "api_key_env" = s.keyVariable.map .text) ∧
    ∀ (s : Settings) (names : List String), Settings.ofJson? (s.toJson.only names) = some {
      fetch := if "fetch" ∈ names then s.fetch else Settings.standard.fetch
      report := if "analysis" ∈ names then s.report else Settings.standard.report
      services := if "services" ∈ names then s.services else Settings.standard.services } := by
  refine ⟨fun f word ↦ ?_, fun fs words ↦ ?_, fun s ↦ ?_, fun s ↦ (Service.get?_toJson s).2,
    Settings.ofJson?_only⟩
  · exact Json.readsBack_of_worded (Finding.worded_toJson word) (Finding.ofJson?_toJson word)
  · refine Json.readsBack_of_worded ?_ (Json.list?_map fun f mem ↦
      Finding.ofJson?_toJson (words f mem))
    rw [Json.worded, Json.wordedItems_eq_all, List.all_map]
    exact List.all_eq_true.mpr fun f mem ↦ Finding.worded_toJson (words f mem)
  · exact Json.readsBack_of_worded (Settings.worded_toJson s) (Settings.ofJson?_toJson s)

/-- A finding on the last line that can be told, with all kinds of characters that are escaped. -/
def awkwardFinding : Finding where
  weakness := "\"tx.origin\" \\ \u0007"
  severity := .high
  line := some 18446744073709551615
  snippet := ">>> a\tb\r\n\u007f"
  description := "ÿ漢😀"
  explanation := ""
  recommendation := "/\u0008\u000c"
  cwe := none
  swc := some "null"

/-- Settings with a service of which everything is set, and one of which nothing is. -/
def unevenSettings : Settings where
  fetch := { timeoutSeconds := 18446744073709551615, interval := 0, userAgent := "" }
  report := { minSeverity := .low }
  services := .ofList [
    ("mine", { endpoint := "", key := some "k", chainId := some 0, keyVariable := some "K" }),
    ("", { endpoint := "http://localhost" })]

theorem exports_read_back_awkward :
    ((∀ n ∈ awkwardFinding.line, n < UInt64.size) ∧
      Json.ReadsBack Finding.ofJson? awkwardFinding.toJson awkwardFinding) ∧
    Json.ReadsBack (Json.list? Finding.ofJson?)
      (.array ([awkwardFinding, { awkwardFinding with line := none }].map Finding.toJson))
      [awkwardFinding, { awkwardFinding with line := none }] ∧
    Json.ReadsBack Settings.ofJson? unevenSettings.toJson unevenSettings := by
  have word : ∀ n ∈ awkwardFinding.line, n < UInt64.size := by decide
  have words : ∀ f ∈ [awkwardFinding, { awkwardFinding with line := none }],
      ∀ n ∈ f.line, n < UInt64.size := by decide
  exact ⟨⟨word, exports_read_back.1 _ word⟩, exports_read_back.2.1 _ words,
    exports_read_back.2.2.1 unevenSettings⟩

end ContractScan
