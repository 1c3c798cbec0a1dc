import ContractScan.Chain.Classify
import ContractScan.Digest.Blake3
import ContractScan.Finding.Report
import ContractScan.Finding.Scan

/-!
# Analysing a source

A source is classified, scanned by the rules that apply to its chain, and reported on.
-/

namespace ContractScan

/-- All that is found out about a source. -/
structure Analysis where
  findings : List Finding
  context : Context
  summary : Summary
  /-- A short fingerprint of the source. -/
  codeHash : String
deriving DecidableEq, Repr

/-- The first sixteen hexadecimal digits of the digest of the source. -/
def codeHash (source : String) : String :=
  String.ofList ((Blake3.hexDigest source.toUTF8.toList).take 16)

/-- The analysis of a source that comes from `origin`. -/
def analyze (source : String) (origin : Option String) : Analysis :=
  let context := classify source origin
  let findings := Finding.finalize (scan (Rule.inSets context.chain.ruleSets) source)
  { findings, context, summary := Summary.ofFindings findings, codeHash := codeHash source }

namespace Analysis

/-- The findings at least as grave as the threshold. -/
def atLeast (a : Analysis) (threshold : Severity) : List Finding :=
  Finding.atLeast threshold a.findings

end Analysis

end ContractScan
