import ContractScan.Analysis
import ContractScan.Finding.Codec

/-!
# Analyses as JSON

How analyses and what they are about are written as JSON values.
-/

namespace ContractScan

namespace Chain

/-- The chain as a value. -/
def toJson (c : Chain) : Json := .text c.name

/-- The chain that a value stands for. -/
def ofJson? : Json → Option Chain := Json.choice? Json.isNull ofName?

end Chain

namespace ChainInfo

/-- What is known about a chain as a value. -/
def toJson (i : ChainInfo) : Json := .object [
  ("name", .text i.name),
  ("language", .text i.language),
  ("explorer", .text i.explorer),
  ("consensus", .text i.consensus),
  ("description", .text i.description)]

end ChainInfo

namespace Context

/-- The context as a value. -/
def toJson (c : Context) : Json := .object [
  ("blockchain", c.chain.toJson),
  ("language", .text c.language),
  ("framework", .optText c.framework)]

/-- The context that a value stands for. -/
def ofJson? (j : Json) : Option Context := do
  let r ← j.record? false ["blockchain", "language", "framework"]
  return {
    chain := ← r.required "blockchain" Chain.ofJson?
    language := ← r.required "language" Json.text?
    framework := ← r.optional "framework" Json.text? }

end Context

namespace Rule

/-- All that a rule says, as a value. -/
def toJson (r : Rule) : Json := .object [
  ("id", .text r.id),
  ("set", r.set.toJson),
  ("vulnerabilityType", .text r.weakness),
  ("severity", r.severity.toJson),
  ("description", .text r.description),
  ("explanation", .text r.explanation),
  ("recommendation", .text r.recommendation),
  ("cweId", .optText r.cwe),
  ("swcId", .optText r.swc)]

/-- What a rule says in a list of rules. -/
def toListing (r : Rule) : Json := .object [
  ("id", .text r.id),
  ("set", r.set.toJson),
  ("vulnerabilityType", .text r.weakness),
  ("severity", r.severity.toJson),
  ("description", .text r.description),
  ("cweId", .optText r.cwe),
  ("swcId", .optText r.swc)]

end Rule

namespace Analysis

/-- The members of the analysis as a value. -/
def members (a : Analysis) : List (String × Json) := [
  ("findings", .array (a.findings.map Finding.toJson)),
  ("context", a.context.toJson),
  ("summary", a.summary.toJson),
  ("codeHash", .text a.codeHash)]

/-- The analysis as a value. -/
def toJson (a : Analysis) : Json := .object a.members

/-- The analysis as a value, with the time at which it was made. -/
def toJsonAt (a : Analysis) (time : String) : Json :=
  .object (a.members ++ [("analyzedAt", .text time)])

end Analysis

end ContractScan
