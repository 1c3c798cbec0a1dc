import ContractScan.Proofs.CommandLine.World
import ContractScan.Proofs.Fetch.Contract
import ContractScan.Proofs.Settings.Merge

/-!
# Which setting counts

A variable of the environment comes before the document, and the document before what is known from
the start. Of the settings, the environment changes only the keys of services and the endpoint of
the one for Solana (`service?_override`), and it does so once and for all (`override_override`).
-/

namespace ContractScan

theorem Environment.nonBlank?_of_given? {env : Environment} {name value : String}
    (h : env.given? name = some value) : Text.nonBlank? value = some value := by
  obtain ⟨t, -, given⟩ := Option.bind_eq_some_iff.mp h
  obtain ⟨-, said⟩ := Text.nonBlank?_eq_some given
  rw [Text.nonBlank?, said]
  rfl

/-- What the environment makes of the service of the given name. -/
def Service.overridden (env : Environment) (name : String) (s : Service) : Service :=
  { s with
    endpoint :=
      if name = "solana" then (env.given? Settings.solanaVariable).getD s.endpoint else s.endpoint
    key := (s.keyVariable.bind env.given?).or s.key }

theorem Service.overridden_overridden (env : Environment) (name : String) (s : Service) :
    overridden env name (overridden env name s) = overridden env name s := by
  have endpoint (url : Option String) : url.getD (url.getD s.endpoint) = url.getD s.endpoint := by
    cases url <;> rfl
  have key (k : Option String) : k.or (k.or s.key) = k.or s.key := by
    cases k <;> rfl
  simp only [overridden, key]
  split
  · rw [endpoint]
  · rfl

namespace Settings

variable {name : String}

theorem get?_moveSolana (url : String) (ss : Keyed Service) (name : String) :
    (moveSolana url ss).get? name =
      (ss.get? name).map fun s ↦ if name = "solana" then { s with endpoint := url } else s := by
  unfold moveSolana
  split
  next s found =>
    rw [Keyed.get?_insert]
    split
    next solana =>
      rw [solana, found]
      rfl
    next => exact Option.map_id'.symm
  next missing =>
    split
    next solana => rw [solana, missing]; rfl
    next => exact Option.map_id'.symm

/-- The environment changes each service by itself. -/
theorem service?_override (s : Settings) (env : Environment) (name : String) :
    (s.override env).service? name = (s.service? name).map (Service.overridden env name) := by
  simp only [service?, override]
  split
  next url given =>
    rw [get?_moveSolana, Keyed.get?_map, Option.map_map]
    congr 1
    funext v
    simp only [Function.comp_apply, Service.withKeyFrom, Service.overridden, given,
      Option.getD_some]
    split <;> rfl
  next missing =>
    rw [Keyed.get?_map]
    congr 1
    funext v
    simp only [Service.withKeyFrom, Service.overridden, missing, Option.getD_none, ite_self]

/-- The environment has no more to say to settings that it has changed. -/
theorem override_override (s : Settings) (env : Environment) :
    (s.override env).override env = s.override env := by
  have services : ((s.override env).override env).services = (s.override env).services := by
    apply Keyed.ext_get?
    intro name
    have twice := service?_override (s.override env) env name
    rw [service?_override s env name, Option.map_map] at twice
    refine twice.trans (Eq.trans ?_ (service?_override s env name).symm)
    congr 1
    funext v
    exact Service.overridden_overridden env name v
  calc (s.override env).override env
      = ⟨s.fetch, s.report, ((s.override env).override env).services⟩ := rfl
    _ = ⟨s.fetch, s.report, (s.override env).services⟩ := by rw [services]
    _ = s.override env := rfl

/-- A variable that is not blank holds the key of a service, and else the service has its own. -/
theorem key_override (s : Settings) (env : Environment) (name : String) :
    (s.override env).key name =
      ((((s.service? name).bind Service.keyVariable).bind env.given?).or
        (((s.service? name).bind Service.key).bind Text.nonBlank?)).getD placeholderKey := by
  rw [key, service?_override]
  cases s.service? name with
  | none => rfl
  | some v =>
    simp only [Option.map_some, Option.bind_some, Service.overridden]
    cases given : v.keyVariable.bind env.given? with
    | none => simp only [Option.none_or]
    | some k =>
      obtain ⟨_, -, value⟩ := Option.bind_eq_some_iff.mp given
      simp only [Option.some_or, Option.bind_some, Environment.nonBlank?_of_given? value]

theorem key_standard (name : String) : (standard.service? name).bind Service.key = none := by
  have none : ∀ e ∈ standard.services.entries, e.2.key = none := by decide
  cases found : standard.service? name with
  | none => rfl
  | some v => exact none (name, v) (Keyed.mem_of_lookup found)

/-- After a merge with the standard settings a service has the key of the document. -/
theorem key_of_merge {d : Document} {ss : Keyed Service}
    (h : mergeServices standard.services d.services.entries = (ss, none)) (name : String) :
    (ss.get? name).bind Service.key = (d.services.get? name).bind Service.Patch.key := by
  rw [field_of_mergeServices Service.key Service.Patch.key (fun made ↦ made.key) h]
  exact (congrArg _ (key_standard name)).trans Option.or_none

/-- After a merge with the standard settings the service for Solana has the endpoint of the
document, if that names one. -/
theorem solana_of_merge {d : Document} {ss : Keyed Service}
    (h : mergeServices standard.services d.services.entries = (ss, none)) :
    (ss.get? "solana").map Service.endpoint =
      some (((d.services.get? "solana").bind Service.Patch.endpoint).getD
        "https://api.mainnet-beta.solana.com") := by
  have known : standard.services.get? "solana" =
      some { endpoint := "https://api.mainnet-beta.solana.com" } := rfl
  have endpoint := field_of_mergeServices (fun v ↦ some v.endpoint) Service.Patch.endpoint
    (fun made ↦ by rw [made.endpoint, Option.map_eq_bind]; rfl) h "solana"
  rw [known, Option.bind_some] at endpoint
  rw [Option.map_eq_bind]
  refine endpoint.trans ?_
  cases (d.services.get? "solana").bind Service.Patch.endpoint <;> rfl

/-- An explorer is asked with the key for its service, and with no other. -/
theorem key_of_mem_request (s : Settings) (c : Call) (reply : Reply)
    (evm : c.target.1.isEvm = true) :
    ∀ r ∈ (s.visit c reply).request, ∃ url query, r = .get url query ∧
      (query.filter fun q ↦ q.1 = "apikey") = [("apikey", s.key c.target.1.service)] := by
  intro r mem
  obtain ⟨url, -, get⟩ := (s.isOf_visit c reply).get evm r mem
  refine ⟨url, _, get, ?_⟩
  rw [List.filter_append]
  cases s.chainId? c.target.1.service <;> simp

/-- The settings that are loaded with a document that merges: for the key of a service a variable
that is not blank counts before the document, and that before the placeholder; for the endpoint of
Solana one variable counts before the document, and that before the known endpoint. The environment
changes nothing else, and nothing a second time. An explorer is asked with the key that results. -/
theorem run_loadSettings {w : World} (folder path : Option String) {file text : String}
    {d : Document} {merged : Settings}
    (which : path = some file ∨ path = none ∧ folder.map userFile = some file)
    (there : w.files.isFile file = true) (readable : w.files.read file = .ok text)
    (parsed : Document.parse? text = some d) (merges : standard.merge text = (merged, none)) :
    ∃ s, w.run (CommandLine.loadSettings folder path).run = (.ok s, w) ∧
      (∀ name, s.key name =
        ((((merged.service? name).bind Service.keyVariable).bind w.environment.given?).or
          (((d.services.get? name).bind Service.Patch.key).bind Text.nonBlank?)).getD
            placeholderKey) ∧
      s.endpoint? "solana" = some (((w.environment.given? solanaVariable).or
        ((d.services.get? "solana").bind Service.Patch.endpoint)).getD
          "https://api.mainnet-beta.solana.com") ∧
      (s.fetch = merged.fetch ∧ s.report = merged.report ∧ ∀ name,
        s.service? name = (merged.service? name).map (Service.overridden w.environment name)) ∧
      s.override w.environment = s ∧
      ∀ (c : Call) (reply : Reply), c.target.1.isEvm = true → ∀ r ∈ (s.visit c reply).request,
        ∃ url query, r = .get url query ∧
          (query.filter fun q ↦ q.1 = "apikey") = [("apikey", s.key c.target.1.service)] := by
  have ofDocument : Settings.ofDocument (some text) = .ok merged := by
    rw [Settings.ofDocument, Option.map_some, merges]
  have loaded := World.finds_loadSettings (World.finds_settingsText which there readable) ofDocument
  obtain ⟨d', parsed', -, -, services⟩ := exists_of_merge merges
  cases parsed.symm.trans parsed'
  refine ⟨merged.override w.environment, loaded, fun name ↦ ?_, ?_, ⟨rfl, rfl, fun name ↦ ?_⟩,
    override_override merged w.environment, fun c reply ↦ key_of_mem_request _ c reply⟩
  · rw [key_override, ← key_of_merge services name]
    rfl
  · rw [endpoint?, service?_override, Option.map_map]
    have known := solana_of_merge services
    obtain ⟨v, found, endpoint⟩ := Option.map_eq_some_iff.mp known
    rw [service?, found, Option.map_some, Function.comp_apply, Service.overridden, endpoint]
    cases w.environment.given? solanaVariable <;> rfl
  · exact service?_override merged w.environment name

/-- A key of a variable, another of the document while its variable is blank, and a placeholder. -/
theorem run_loadSettings_keys :
    let text :=
      "services=\x7bbscscan=\x7bapi_key_env='SCAN'\x7d,etherscan=\x7bapi_key='plain'\x7d," ++
        "solana=\x7bendpoint='node'\x7d\x7d"
    let w : World := {
      files := { files := [(["keys.toml"], text.toUTF8)] }
      environment := fun name ↦
        [("SCAN", "secret"), ("ETHERSCAN_API_KEY", " "), (solanaVariable, "")].lookup name
      time := ""
      reply := fun _ ↦ .error .tooManyRequests }
    ∃ s, w.run (CommandLine.loadSettings (some "user") (some "keys.toml")).run = (.ok s, w) ∧
      s.key "bscscan" = "secret" ∧ s.key "etherscan" = "plain" ∧
      s.key "snowtrace" = placeholderKey ∧ s.endpoint? "solana" = some "node" := by
  intro text w
  let d : Document := {
    fetch := none
    report := none
    services := .ofList [("bscscan", ⟨none, none, none, some "SCAN"⟩),
      ("etherscan", ⟨none, some "plain", none, none⟩), ("solana", ⟨some "node", none, none, none⟩)] }
  have there : w.files.isFile "keys.toml" = true := by decide +kernel
  have readable : w.files.read "keys.toml" = .ok text := by decide +kernel
  have parsed : Document.parse? text = some d := by decide +kernel
  have applied : standard.apply d = ((standard.apply d).1, none) :=
    Prod.ext rfl rfl
  obtain ⟨s, loaded, key, endpoint, -⟩ := run_loadSettings (some "user") _ (.inl rfl) there readable
    parsed ((merge_of_parse? parsed standard).trans applied)
  refine ⟨s, loaded, ?_, ?_, ?_, ?_⟩
  · exact (key "bscscan").trans rfl
  · exact (key "etherscan").trans rfl
  · exact (key "snowtrace").trans rfl
  · exact endpoint.trans rfl

end Settings

end ContractScan
