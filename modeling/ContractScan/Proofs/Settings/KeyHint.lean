import ContractScan.Fetch.Error
import ContractScan.Proofs.Settings.Precedence

/-!
# The variable that a hint names

Who is refused by an explorer is told of a variable that holds a key. That variable is consulted for
the explorer's service unless a document names another one for it; then the key of the document
counts, or none, and the one that was exported does not (`run_loadSettings_hint`).
-/

namespace ContractScan

/-- The environment in which one variable is set. -/
def Environment.only (exported value : String) : Environment :=
  fun name ↦ if name = exported then some value else none

theorem Environment.given?_only {value : String} (written : Text.allBlank value = false)
    (exported name : String) :
    (only exported value).given? name = if name = exported then some value else none := by
  rw [given?, only]
  split
  next => rw [Option.bind_some, Text.nonBlank?, written, if_neg Bool.false_ne_true]
  next => rfl

/-- An explorer has a variable, and hints at failures for want of a key name it. -/
theorem Network.exists_keyHint {n : Network} (evm : n.isEvm = true) :
    ∃ page exported, n.keyVariable? = some exported ∧
      FetchError.keyHint? n =
        some ("Get a free API key at " ++ page ++ " and export it as " ++ exported) := by
  cases n with
  | solana => cases evm
  | ethereum | bsc | polygon | avalanche => exact ⟨_, _, rfl, rfl⟩

namespace Settings

/-- The services of networks are known from the start with the variables that hints name. -/
theorem keyVariable_standard (n : Network) :
    (standard.service? n.service).bind Service.keyVariable = n.keyVariable? := by
  cases n <;> rfl

/-- After a merge with the standard settings the service of a network has the variable of the
document, and else the one that hints name. -/
theorem keyVariable_of_merge {d : Document} {ss : Keyed Service}
    (h : mergeServices standard.services d.services.entries = (ss, none)) (n : Network) :
    (ss.get? n.service).bind Service.keyVariable =
      ((d.services.get? n.service).bind Service.Patch.keyVariable).or n.keyVariable? := by
  rw [field_of_mergeServices Service.keyVariable Service.Patch.keyVariable
    (fun made ↦ made.keyVariable) h]
  exact congrArg _ (keyVariable_standard n)

/-- For each EVM network the hints at a refused key and at a rate limit name one variable. Settings
that are loaded where it alone is set, with a document that merges, have the key that it holds for
the service of the network, unless the document names another variable for that service; then they
have the key of the document, if it gives one, and else the placeholder. -/
theorem run_loadSettings_hint {n : Network} (evm : n.isEvm = true) :
    ∃ page exported, n.keyVariable? = some exported ∧
      (∀ e ∈ [FetchError.invalidKey n, .rateLimited n],
        e.hint? = some ("Get a free API key at " ++ page ++ " and export it as " ++ exported)) ∧
      ∀ (w : World) (folder path : Option String) (file text key : String) (d : Document)
        (merged : Settings),
        path = some file ∨ path = none ∧ folder.map userFile = some file →
        w.files.isFile file = true → w.files.read file = .ok text →
        Document.parse? text = some d → standard.merge text = (merged, none) →
        w.environment = .only exported key → Text.allBlank key = false →
        ∃ s, w.run (CommandLine.loadSettings folder path).run = (.ok s, w) ∧
          let consulted := ((d.services.get? n.service).bind Service.Patch.keyVariable).getD exported
          let own := ((d.services.get? n.service).bind Service.Patch.key).bind Text.nonBlank?
          (consulted = exported → s.key n.service = key) ∧
          (consulted ≠ exported → s.key n.service = own.getD placeholderKey) := by
  obtain ⟨page, exported, named, hint⟩ := Network.exists_keyHint evm
  refine ⟨page, exported, named, ?_, ?_⟩
  · intro e mem
    rcases List.mem_pair.mp mem with rfl | rfl
    · exact hint
    · exact hint
  · intro w folder path file text key d merged which there readable parsed merges environment written
    have ofDocument : Settings.ofDocument (some text) = .ok merged := by
      rw [Settings.ofDocument, Option.map_some, merges]
    obtain ⟨d', parsed', -, -, services⟩ := exists_of_merge merges
    cases parsed.symm.trans parsed'
    refine ⟨merged.override w.environment,
      World.finds_loadSettings (World.finds_settingsText which there readable) ofDocument, ?_⟩
    intro consulted own
    have asked : (merged.service? n.service).bind Service.keyVariable = some consulted := by
      rw [service?, keyVariable_of_merge services, named]
      exact Option.or_some
    have keys : (merged.service? n.service).bind Service.key =
        (d.services.get? n.service).bind Service.Patch.key := key_of_merge services n.service
    rw [key_override, asked, keys, Option.bind_some, environment,
      Environment.given?_only written]
    constructor
    · intro same
      rw [if_pos same]
      rfl
    · intro other
      rw [if_neg other]
      rfl

/-- A world with a document for a team, in which one variable is set. -/
def teamWorld (document exported : String) : World where
  files := { files := [(["team.toml"], document.toUTF8)] }
  environment := .only exported "ABCDEFGHIJKLMNOP"
  time := ""
  reply := fun _ ↦ .error .tooManyRequests

/-- A variable counts before the key of the document, but not where the document names another. -/
theorem run_loadSettings_hint_team :
    let document := "services=\x7bbscscan=\x7bapi_key='plain'\x7d," ++
      "etherscan=\x7bapi_key='shared',api_key_env='TEAM_KEY'\x7d\x7d"
    let load := (CommandLine.loadSettings none (some "team.toml")).run
    let onBsc := teamWorld document "BSCSCAN_API_KEY"
    let onEthereum := teamWorld document "ETHERSCAN_API_KEY"
    (∃ s, onBsc.run load = (.ok s, onBsc) ∧ s.key "bscscan" = "ABCDEFGHIJKLMNOP") ∧
      ∃ s, onEthereum.run load = (.ok s, onEthereum) ∧ s.key "etherscan" = "shared" := by
  intro document load onBsc onEthereum
  let d : Document := {
    fetch := none
    report := none
    services := .ofList [("bscscan", ⟨none, some "plain", none, none⟩),
      ("etherscan", ⟨none, some "shared", none, some "TEAM_KEY"⟩)] }
  have there (exported : String) :
      (teamWorld document exported).files.isFile "team.toml" = true := by
    change (teamWorld document "").files.isFile "team.toml" = true
    decide +kernel
  have readable (exported : String) :
      (teamWorld document exported).files.read "team.toml" = .ok document := by
    change (teamWorld document "").files.read "team.toml" = .ok document
    decide +kernel
  have parsed : Document.parse? document = some d := by decide +kernel
  have merges : standard.merge document = ((standard.apply d).1, none) :=
    (merge_of_parse? parsed standard).trans (Prod.ext rfl rfl)
  have written : Text.allBlank "ABCDEFGHIJKLMNOP" = false := by decide
  obtain ⟨-, bsc, named, -, loads⟩ := run_loadSettings_hint (n := .bsc) rfl
  cases named
  obtain ⟨s, loaded, exported, -⟩ := loads onBsc none (some "team.toml") "team.toml" document _ d _
    (.inl rfl) (there _) (readable _) parsed merges rfl written
  obtain ⟨-, ethereum, named, -, loads⟩ := run_loadSettings_hint (n := .ethereum) rfl
  cases named
  obtain ⟨s', loaded', -, own⟩ := loads onEthereum none (some "team.toml") "team.toml" document _ d _
    (.inl rfl) (there _) (readable _) parsed merges rfl written
  exact ⟨⟨s, loaded, exported rfl⟩, s', loaded', (own (by decide)).trans rfl⟩

/-- A key that was exported as the hint says, and that is not asked with. -/
theorem run_loadSettings_hint_unheeded :
    let document := "[services.etherscan]\napi_key_env = \"TEAM_KEY\"\n"
    let w := teamWorld document "ETHERSCAN_API_KEY"
    (FetchError.invalidKey .ethereum).hint? = some
      "Get a free API key at https://etherscan.io/apis and export it as ETHERSCAN_API_KEY" ∧
    w.environment "ETHERSCAN_API_KEY" = some "ABCDEFGHIJKLMNOP" ∧
    (w.run (CommandLine.loadSettings none (some "team.toml")).run).1.toOption.map
      (fun s ↦ s.key Network.ethereum.service) = some placeholderKey ∧
    placeholderKey ≠ "ABCDEFGHIJKLMNOP" := by
  decide +kernel

end Settings

end ContractScan
