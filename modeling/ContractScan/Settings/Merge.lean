import ContractScan.Settings.Document

/-!
# Merging documents into settings

A section of a document replaces that section of the settings. Services are changed field by
field, one after the other in the order of their names; a service that is new must have an
endpoint, and the first one without stops the merge, with what was merged before left in place.
-/

namespace ContractScan

namespace Service

/-- The service after the changes. -/
def patched (s : Service) (p : Patch) : Service where
  endpoint := p.endpoint.getD s.endpoint
  key := p.key.or s.key
  chainId := p.chainId.or s.chainId
  keyVariable := p.keyVariable.or s.keyVariable

/-- The service that the changes alone make, if they name its endpoint. -/
def Patch.service? (p : Patch) : Option Service :=
  p.endpoint.map fun e ↦ ⟨e, p.key, p.chainId, p.keyVariable⟩

end Service

namespace Settings

/-- The service after a change: the one there is, changed, or else a new one. -/
def changed? (old : Option Service) (p : Service.Patch) : Option Service :=
  match old with
  | some s => some (s.patched p)
  | none => p.service?

/-- The services after the changes, and the name of the one that stopped them, if any. -/
def mergeServices (ss : Keyed Service) :
    List (String × Service.Patch) → Keyed Service × Option String
  | [] => (ss, none)
  | (name, p) :: rest =>
    match changed? (ss.get? name) p with
    | some s => mergeServices (ss.insert name s) rest
    | none => (ss, some name)

/-- The settings after a document, and why it was not merged in full, if it was not. -/
def apply (s : Settings) (d : Document) : Settings × Option SettingsError :=
  let (services, stopped) := mergeServices s.services d.services.entries
  (⟨d.fetch.getD s.fetch, d.report.getD s.report, services⟩,
    stopped.map fun name ↦ .missing ("services." ++ name ++ ".endpoint"))

/-- The settings after a document given as text, and why it was not merged in full, if it was
not. What is no document changes nothing. -/
def merge (s : Settings) (text : String) : Settings × Option SettingsError :=
  match Document.parse? text with
  | some d => s.apply d
  | none => (s, some (.malformed "not a document of settings"))

end Settings

end ContractScan
