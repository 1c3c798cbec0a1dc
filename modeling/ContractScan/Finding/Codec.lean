import ContractScan.Finding.Report
import ContractScan.Json.Record

/-!
# Findings as JSON

How findings and summaries are written as JSON values, and how findings are read back.
-/

namespace ContractScan

namespace Severity

/-- The severity as a value. -/
def toJson (s : Severity) : Json := .text s.name

/-- The severity that a value stands for. -/
def ofJson? : Json → Option Severity := Json.choice? Json.isNull ofName?

end Severity

namespace RuleSet

/-- The rule set as a value. -/
def toJson (s : RuleSet) : Json := .text s.name

/-- The rule set that a value stands for. -/
def ofJson? : Json → Option RuleSet := Json.choice? Json.isNull ofName?

end RuleSet

namespace Finding

/-- The names of the fields, in order. -/
def fieldNames : List String :=
  ["vulnerabilityType", "severity", "lineNumber", "codeSnippet", "description", "explanation",
    "recommendation", "cweId", "swcId"]

/-- The finding as a value. -/
def toJson (f : Finding) : Json := .object [
  ("vulnerabilityType", .text f.weakness),
  ("severity", f.severity.toJson),
  ("lineNumber", .optNat f.line),
  ("codeSnippet", .text f.snippet),
  ("description", .text f.description),
  ("explanation", .text f.explanation),
  ("recommendation", .text f.recommendation),
  ("cweId", .optText f.cwe),
  ("swcId", .optText f.swc)]

/-- The finding that a value stands for. -/
def ofJson? (j : Json) : Option Finding := do
  let r ← j.record? false fieldNames
  return {
    weakness := ← r.required "vulnerabilityType" Json.text?
    severity := ← r.required "severity" Severity.ofJson?
    line := ← r.optional "lineNumber" Json.word?
    snippet := ← r.required "codeSnippet" Json.text?
    description := ← r.required "description" Json.text?
    explanation := ← r.required "explanation" Json.text?
    recommendation := ← r.required "recommendation" Json.text?
    cwe := ← r.optional "cweId" Json.text?
    swc := ← r.optional "swcId" Json.text? }

end Finding

namespace Summary

/-- The summary as a value; the score is written with one decimal. -/
def toJson (s : Summary) : Json := .object [
  ("totalFindings", .nat s.total),
  ("findingsBySeverity", .object (s.counts.map fun c ↦ (c.1.name, .nat c.2))),
  ("riskLevel", s.risk.toJson),
  ("securityScore",
    .number { mantissa := 10 * s.score, exponent := -1, integral := false })]

end Summary

end ContractScan
