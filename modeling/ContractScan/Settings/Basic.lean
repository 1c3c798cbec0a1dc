import ContractScan.Settings.Keyed
import ContractScan.Severity
import ContractScan.Text.Blank
import ContractScan.Text.Utf8

/-!
# Settings

How contracts are fetched, which findings are reported, and by which services networks are
reached. A service without a key of its own is asked with a public placeholder.
-/

namespace ContractScan

/-- A service that tells about contracts. -/
structure Service where
  endpoint : String
  /-- The key that it is asked with. -/
  key : Option String := none
  /-- The chain to ask for, where one endpoint serves several. -/
  chainId : Option UInt64 := none
  /-- The environment variable that holds a key. -/
  keyVariable : Option String := none
deriving DecidableEq, Repr

/-- How requests are sent. -/
structure FetchSettings where
  timeoutSeconds : UInt64 := 10
  /-- The least time between two requests, in milliseconds. -/
  interval : UInt64 := 200
  userAgent : String := "contract-auditor/0.1.0"
deriving DecidableEq, Repr

/-- What is reported of an analysis. -/
structure ReportSettings where
  /-- Findings that are less grave are left out. -/
  minSeverity : Severity := .info
deriving DecidableEq, Repr

/-- All settings. -/
structure Settings where
  fetch : FetchSettings
  report : ReportSettings
  services : Keyed Service
deriving DecidableEq, Repr

namespace Settings

/-- The services that are known from the start. -/
def knownServices : Keyed Service := .ofList [
  ("etherscan",
    { endpoint := "https://api.etherscan.io/api", keyVariable := some "ETHERSCAN_API_KEY" }),
  ("bscscan",
    { endpoint := "https://api.bscscan.com/api", keyVariable := some "BSCSCAN_API_KEY" }),
  ("polygonscan", {
    endpoint := "https://api.etherscan.io/v2/api"
    chainId := some 137
    keyVariable := some "POLYGONSCAN_API_KEY" }),
  ("snowtrace",
    { endpoint := "https://api.snowtrace.io/api", keyVariable := some "SNOWTRACE_API_KEY" }),
  ("solana", { endpoint := "https://api.mainnet-beta.solana.com" })]

/-- The settings where nothing else is said. -/
def standard : Settings := ⟨{}, {}, knownServices⟩

instance : Inhabited Settings := ⟨standard⟩

/-- The service of the given name. -/
def service? (s : Settings) (name : String) : Option Service := s.services.get? name

/-- Where the service is reached. -/
def endpoint? (s : Settings) (name : String) : Option String :=
  (s.service? name).map Service.endpoint

/-- The chain that the service is asked for. -/
def chainId? (s : Settings) (name : String) : Option UInt64 :=
  (s.service? name).bind Service.chainId

/-- The key that anyone may use, though not often. -/
def placeholderKey : String := "YourApiKeyToken"

/-- The key for the service: its own unless that is missing or blank. -/
def key (s : Settings) (name : String) : String :=
  (((s.service? name).bind Service.key).bind Text.nonBlank?).getD placeholderKey

/-- The most bytes of a text that is too short to be a key. -/
def longestNoKey : Nat := 10

/-- The service has a key of its own that can be a real one. -/
def hasRealKey (s : Settings) (name : String) : Bool :=
  s.key name != placeholderKey && longestNoKey < Text.size (s.key name).toList

end Settings

/-- Why settings could not be loaded. -/
inductive SettingsError
  /-- There is no such file. -/
  | invalidFile (path : String)
  /-- A setting that has no default is missing. -/
  | missing (setting : String)
  /-- The document cannot be understood. -/
  | malformed (detail : String)
deriving DecidableEq, Repr

/-- The text for the user. -/
def SettingsError.message : SettingsError → String
  | .invalidFile path => "Invalid configuration file: " ++ path
  | .missing setting => "Missing required configuration: " ++ setting
  | .malformed detail => "Configuration parsing failed: " ++ detail

end ContractScan
