import ContractScan.Fetch.Contract
import ContractScan.Network.KnownContract
import ContractScan.Report.Analysis
import ContractScan.Rule.Catalog

/-!
# Reports of contracts, rules and networks

A fetched contract in five lines, and the lists of rules, of networks and of known contracts.
-/

namespace ContractScan

/-- What is known about the contract, apart from its source. -/
def Contract.report (c : Contract) : List Report.Line :=
  let verified : Report.Piece :=
    if c.verified then ⟨.brightGreen, "verified"⟩ else ⟨.yellow, "unverified"⟩
  [[.bold "Contract:", .plain (" " ++ c.name ++ " ("), verified, .plain ")"],
    [.bold "Network:", .plain (" " ++ c.network.title)],
    [.bold "Compiler:", .plain (" " ++ c.compiler)],
    [.bold "Explorer:", .plain " ", ⟨.brightBlue, c.page⟩],
    [.bold "Source:",
      .plain (" " ++ toString (Text.lines c.source.toList).length ++ " lines")]]

namespace Rule

/-- The line that lists the rule. -/
def entry (r : Rule) : Report.Line :=
  [.plain "  ", r.severity.label,
    .plain (" " ++ Report.padded 28 r.id ++ " " ++ r.description ++ Report.entries r.swc r.cwe)]

/-- The rules of one set, or of all, under the headings of their sets. -/
def report (only : Option RuleSet) : List Report.Line :=
  (RuleSet.all.filter fun s ↦ only.all (· == s)).flatMap fun s ↦
    [⟨.heading, s.label⟩] :: (inSet s).map entry

end Rule

namespace Network

/-- The line that lists the network. -/
def entry (n : Network) : Report.Line :=
  [.bold (Report.padded 22 n.title),
    .plain (" " ++ Report.padded 12 n.service ++ " " ++ n.explorerPage)]

/-- All networks. -/
def report : List Report.Line := all.map entry

end Network

namespace KnownContract

/-- The two lines that list the contract; a star marks popular ones. -/
def entry (c : KnownContract) : List Report.Line :=
  [[.plain (if c.popular then "* " else "  "), .bold (Report.padded 18 c.name),
      .plain (" " ++ Report.padded 22 c.network.title ++ " " ++ c.address)],
    [.plain "    ", ⟨.dimmed, c.description⟩, .plain " ", ⟨.brightBlue, c.page⟩]]

/-- The known contracts on one network, or on all. -/
def report (network : Option Network) : List Report.Line := (on network).flatMap entry

end KnownContract

end ContractScan
