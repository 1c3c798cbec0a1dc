import ContractScan.Settings.Merge

/-!
# Settings and the environment

Variables that are set and not blank come before what documents say: they hold the keys of
services, and one of them the endpoint of the service for Solana.
-/

namespace ContractScan

/-- The values of environment variables. -/
abbrev Environment := String → Option String

/-- The value of a variable unless it is blank. -/
def Environment.given? (env : Environment) (name : String) : Option String :=
  (env name).bind Text.nonBlank?

/-- The service with its key from the environment. -/
def Service.withKeyFrom (env : Environment) (s : Service) : Service :=
  { s with key := (s.keyVariable.bind env.given?).or s.key }

namespace Settings

/-- The variable that holds the endpoint of the service for Solana. -/
def solanaVariable : String := "SOLANA_RPC_URL"

/-- The services with the endpoint of the one for Solana, if there is such a service. -/
def moveSolana (endpoint : String) (ss : Keyed Service) : Keyed Service :=
  match ss.get? "solana" with
  | some s => ss.insert "solana" { s with endpoint }
  | none => ss

/-- The settings after what the environment says. -/
def override (s : Settings) (env : Environment) : Settings :=
  let services := s.services.map (Service.withKeyFrom env)
  { s with services :=
      match env.given? solanaVariable with
      | some url => moveSolana url services
      | none => services }

/-- The variables that bear on the settings. -/
def variableNames (s : Settings) : List String :=
  solanaVariable :: s.services.entries.filterMap fun e ↦ e.2.keyVariable

/-- The standard settings after the document, if there is one. -/
def ofDocument (document : Option String) : Except SettingsError Settings :=
  match document.map standard.merge with
  | none => .ok standard
  | some (s, none) => .ok s
  | some (_, some e) => .error e

/-- The folder of the user's settings: an absolute path in one variable, or else a folder in the
user's own. -/
def folder? (env : Environment) : Option String :=
  let absolute := (env "XDG_CONFIG_HOME").filter fun p ↦ p.startsWith "/"
  absolute.or (((env "HOME").filter (!·.isEmpty)).map (· ++ "/.config"))

/-- The file with the user's settings, in the given folder. -/
def userFile (folder : String) : String := folder ++ "/contract-auditor/config.toml"

end Settings

end ContractScan
