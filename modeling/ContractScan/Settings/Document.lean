import ContractScan.Json.Record
import ContractScan.Settings.Basic
import ContractScan.Finding.Codec
import ContractScan.Toml.Parser

/-!
# Documents of settings

How settings are written as JSON values and read back, and what a document in TOML may say: the
two sections, each of which stands for itself as a whole, and changes to single services.
-/

namespace ContractScan

/-- What a service is to be changed to; what is missing stays. -/
structure Service.Patch where
  endpoint : Option String
  key : Option String
  chainId : Option UInt64
  keyVariable : Option String
deriving DecidableEq, Repr

/-- A document that says how settings are to be changed. -/
structure Document where
  fetch : Option FetchSettings
  report : Option ReportSettings
  services : Keyed Service.Patch
deriving DecidableEq, Repr

/-- How a format writes records and choices. -/
structure Dialect where
  /-- Items after the last field of a record are passed over. -/
  surplus : Bool
  /-- The value of a choice that has nothing but its name. -/
  saysNothing : Json → Bool

namespace Dialect

/-- A value without parts. -/
def isEmpty : Json → Bool
  | .object [] | .array [] => true
  | _ => false

/-- Settings in JSON. -/
def json : Dialect := ⟨false, Json.isNull⟩

/-- Settings in TOML. -/
def toml : Dialect := ⟨true, isEmpty⟩

end Dialect

namespace Json

/-- The 64-bit word that the value is. -/
def uint64? (j : Json) : Option UInt64 := j.word?.map UInt64.ofNat

/-- A word as a value. -/
def uint64 (w : UInt64) : Json := nat w.toNat

/-- An object whose members are decoded one by one. -/
def keyed? (decode : Json → Option α) (j : Json) : Option (Keyed α) := do
  let ms ← j.members?
  let es ← ms.mapM fun m ↦ (decode m.2).map fun v ↦ (m.1, v)
  return .ofList es

end Json

namespace FetchSettings

/-- The names of the fields, in order. -/
def fieldNames : List String := ["timeout_secs", "min_request_interval_ms", "user_agent"]

/-- The settings as a value. -/
def toJson (s : FetchSettings) : Json := .object [
  ("timeout_secs", .uint64 s.timeoutSeconds),
  ("min_request_interval_ms", .uint64 s.interval),
  ("user_agent", .text s.userAgent)]

/-- The settings that a value stands for; what is missing takes its default. -/
def ofJson? (n : Dialect) (j : Json) : Option FetchSettings := do
  let standard : FetchSettings := {}
  let r ← j.record? n.surplus fieldNames
  return {
    timeoutSeconds := ← r.defaulted "timeout_secs" standard.timeoutSeconds Json.uint64?
    interval := ← r.defaulted "min_request_interval_ms" standard.interval Json.uint64?
    userAgent := ← r.defaulted "user_agent" standard.userAgent Json.text? }

end FetchSettings

namespace ReportSettings

/-- The settings as a value. -/
def toJson (s : ReportSettings) : Json := .object [("min_severity", s.minSeverity.toJson)]

/-- The settings that a value stands for; what is missing takes its default. -/
def ofJson? (n : Dialect) (j : Json) : Option ReportSettings := do
  let standard : ReportSettings := {}
  let r ← j.record? n.surplus ["min_severity"]
  return {
    minSeverity := ← r.defaulted "min_severity" standard.minSeverity
      (Json.choice? n.saysNothing Severity.ofName?) }

end ReportSettings

namespace Service

/-- The names of the fields, in order. -/
def fieldNames : List String := ["endpoint", "api_key", "chain_id", "api_key_env"]

/-- The service as a value, without the fields that are not set. -/
def toJson (s : Service) : Json := .object (
  [("endpoint", .text s.endpoint)] ++
    (s.key.map fun k ↦ ("api_key", Json.text k)).toList ++
    (s.chainId.map fun c ↦ ("chain_id", Json.uint64 c)).toList ++
    (s.keyVariable.map fun v ↦ ("api_key_env", Json.text v)).toList)

/-- The service that a value stands for. -/
def ofJson? (j : Json) : Option Service := do
  let r ← j.record? false fieldNames
  return {
    endpoint := ← r.required "endpoint" Json.text?
    key := ← r.defaulted "api_key" none (Json.Record.nullable Json.text?)
    chainId := ← r.defaulted "chain_id" none (Json.Record.nullable Json.uint64?)
    keyVariable := ← r.defaulted "api_key_env" none (Json.Record.nullable Json.text?) }

/-- The changes that a value in a document stands for. -/
def Patch.ofJson? (j : Json) : Option Patch := do
  let r ← j.record? true fieldNames
  return {
    endpoint := ← r.defaulted "endpoint" none fun j ↦ j.text?.map some
    key := ← r.defaulted "api_key" none fun j ↦ j.text?.map some
    chainId := ← r.defaulted "chain_id" none fun j ↦ j.uint64?.map some
    keyVariable := ← r.defaulted "api_key_env" none fun j ↦ j.text?.map some }

end Service

namespace Settings

/-- The settings as a value. -/
def toJson (s : Settings) : Json := .object [
  ("fetch", s.fetch.toJson),
  ("analysis", s.report.toJson),
  ("services", .object (s.services.entries.map fun e ↦ (e.1, e.2.toJson)))]

/-- The settings that a value stands for; what is missing takes its default. -/
def ofJson? (j : Json) : Option Settings := do
  let r ← j.record? false ["fetch", "analysis", "services"]
  return {
    fetch := ← r.defaulted "fetch" standard.fetch (FetchSettings.ofJson? .json)
    report := ← r.defaulted "analysis" standard.report (ReportSettings.ofJson? .json)
    services := ← r.defaulted "services" standard.services (Json.keyed? Service.ofJson?) }

end Settings

namespace Document

/-- The document that the entries of a table stand for. -/
def ofEntries? (es : Toml.Entries) : Option Document := do
  let r ← (Json.object (Toml.entriesToJson es)).record? true ["fetch", "analysis", "services"]
  return {
    fetch := ← r.defaulted "fetch" none fun j ↦ (FetchSettings.ofJson? .toml j).map some
    report := ← r.defaulted "analysis" none fun j ↦ (ReportSettings.ofJson? .toml j).map some
    services := ← r.defaulted "services" .empty (Json.keyed? Service.Patch.ofJson?) }

/-- The document that a text in TOML stands for. -/
def parse? (text : String) : Option Document := (Toml.parse? text.toList).bind ofEntries?

end Document

end ContractScan
