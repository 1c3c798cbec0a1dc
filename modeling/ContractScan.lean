import ContractScan.CommandLine.Files
import ContractScan.Main
import ContractScan.Proofs.Analysis.LetterCase
import ContractScan.Proofs.Analysis.LineEnd
import ContractScan.Proofs.Analysis.Overlay
import ContractScan.Proofs.Analysis.RuleSets
import ContractScan.Proofs.Chain.Cascade
import ContractScan.Proofs.Chain.Origin
import ContractScan.Proofs.Chain.Page
import ContractScan.Proofs.CommandLine.Analyze
import ContractScan.Proofs.Export
import ContractScan.Proofs.Fetch.Contract
import ContractScan.Proofs.Fetch.Detection
import ContractScan.Proofs.Fetch.Spacing
import ContractScan.Proofs.Fetch.Unpacking
import ContractScan.Proofs.Finding.Hit
import ContractScan.Proofs.Finding.Reported
import ContractScan.Proofs.Finding.Truncation
import ContractScan.Proofs.Network.Hint
import ContractScan.Proofs.Network.Page
import ContractScan.Proofs.Report.Account
import ContractScan.Proofs.Report.Colour
import ContractScan.Proofs.Rule.AccessControl
import ContractScan.Proofs.Rule.BridgeOperation
import ContractScan.Proofs.Rule.MissingSigner
import ContractScan.Proofs.Rule.Occurrence
import ContractScan.Proofs.Rule.OldArithmetic
import ContractScan.Proofs.Rule.Part
import ContractScan.Proofs.Rule.Reentrancy
import ContractScan.Proofs.Settings.KeyHint
import ContractScan.Proofs.Settings.Precedence
import ContractScan.Proofs.Settings.Sections
import ContractScan.Proofs.Settings.Services
import ContractScan.Proofs.Source.Snippet
