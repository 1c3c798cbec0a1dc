import ContractScan.CommandLine.Grammar
import ContractScan.Network.Basic
import ContractScan.Rule.Basic
import ContractScan.Text.LetterCase

/-!
# Calls of the program

What the program can be asked to do, and how arguments say so. Four switches may stand before the
command or after it; what stands after it counts.
-/

namespace ContractScan.CommandLine

/-- What the program is asked to do. -/
inductive Command
  | analyze (file : String) (origin : Option String) (minSeverity failOn : Option Severity)
  | fetch (address : String) (hint : Option String) (analyze : Bool) (output : Option String)
    (minSeverity : Option Severity)
  | rules (set : Option RuleSet)
  | networks
  | examples (network : Option Network)
deriving DecidableEq, Repr

/-- A call of the program. -/
structure Invocation where
  /-- The file with the settings. -/
  config : Option String
  verbosity : Nat
  quiet : Bool
  json : Bool
  command : Command
deriving DecidableEq, Repr

/-- The commands, without what they are told. -/
inductive Verb
  | analyze
  | fetch
  | rules
  | networks
  | examples
deriving DecidableEq, Repr

namespace Verb

/-- All commands. -/
def all : List Verb := [.analyze, .fetch, .rules, .networks, .examples]

/-- The word for the command. -/
def word : Verb → String
  | .analyze => "analyze"
  | .fetch => "fetch"
  | .rules => "rules"
  | .networks => "networks"
  | .examples => "examples"

/-- The command of the given word. -/
def ofWord? (s : String) : Option Verb := all.find? fun v ↦ v.word == s

end Verb

/-- The severity of the given word. -/
def severity? (s : String) : Option Severity :=
  Severity.all.find? fun v ↦ Text.lowerAscii v.name == s

/-- The rule set of the given word; an overlay goes by the name of its chain. -/
def ruleSet? : String → Option RuleSet
  | "evm" => some .evm
  | "solana" => some .solana
  | "bsc" => some .bscOverlay
  | "polygon" => some .polygonOverlay
  | "avalanche" => some .avalancheOverlay
  | _ => none

/-- Any text. -/
def anyText (_ : String) : Bool := true

/-- A text that can be a path. -/
def anyPath (s : String) : Bool := !s.isEmpty

/-- The switches that may stand on every level. -/
def commonSwitches : List Switch := [
  { name := "config", short := some 'c', takes := .value anyPath },
  { name := "verbose", short := some 'v', takes := .count },
  { name := "quiet", short := some 'q', takes := .nothing },
  { name := "json", takes := .nothing },
  { name := "help", short := some 'h', takes := .stop .helpAsked }]

/-- The word that asks for help about commands. -/
def helpWord : String := "help"

/-- What may stand before the command. -/
def outerLevel : Level where
  switches := commonSwitches ++
    [{ name := "version", short := some 'V', takes := .stop .versionAsked }]
  commands := Verb.all.map Verb.word ++ [helpWord]

/-- The switch for the least severity that is reported. -/
def minSeveritySwitch : Switch :=
  { name := "min-severity", takes := .value fun s ↦ (severity? s).isSome }

/-- The switch for where a source comes from. -/
def urlSwitch : Switch := { name := "url", takes := .value anyText }

/-- What may stand after a command. -/
def Verb.level : Verb → Level
  | .analyze => {
      switches := [urlSwitch, minSeveritySwitch,
        { name := "fail-on", takes := .value fun s ↦ (severity? s).isSome }] ++ commonSwitches
      positionals := [⟨"file", anyPath⟩] }
  | .fetch => {
      switches := [urlSwitch, { name := "analyze", short := some 'a', takes := .nothing },
        { name := "output", short := some 'o', takes := .value anyPath }, minSeveritySwitch] ++
          commonSwitches
      positionals := [⟨"address", anyText⟩] }
  | .rules => {
      switches := { name := "set", takes := .value fun s ↦ (ruleSet? s).isSome } :: commonSwitches }
  | .networks => { switches := commonSwitches }
  | .examples => {
      switches := { name := "network", takes := .value fun s ↦ (Network.ofName? s).isSome } ::
        commonSwitches }

/-- The command with what was read after it. -/
def Verb.command (v : Verb) (r : Reading) : Command :=
  let minSeverity := (r.value? "min-severity").bind severity?
  match v with
  | .analyze => .analyze ((r.value? "file").getD "") (r.value? "url") minSeverity
      ((r.value? "fail-on").bind severity?)
  | .fetch => .fetch ((r.value? "address").getD "") (r.value? "url") (r.has "analyze")
      (r.value? "output") minSeverity
  | .rules => .rules ((r.value? "set").bind ruleSet?)
  | .networks => .networks
  | .examples => .examples ((r.value? "network").bind Network.ofName?)

namespace Invocation

/-- The most that verbosity counts up to. -/
def maxVerbosity : Nat := 255

/-- The call that was read before the command, and after it. -/
def ofReadings (outer : Reading) (v : Verb) (inner : Reading) : Invocation where
  config := (inner.value? "config").or (outer.value? "config")
  verbosity :=
    min maxVerbosity (if inner.has "verbose" then inner.count "verbose" else outer.count "verbose")
  quiet := inner.has "quiet" || outer.has "quiet"
  json := inner.has "json" || outer.has "json"
  command := v.command inner

/-- The readings after a command: everything on its level, of which no positional argument may be
missing. -/
def readCommand (v : Verb) (args : List String) : Except Refusal Reading := do
  let (r, _) ← Reading.readAll v.level {} args
  let r ← r.settle
  if r.positions < v.level.positionals.length then .error .argumentMissing else .ok r

/-- What becomes of a wish for help about commands. -/
def helpAbout : List String → Refusal
  | [] => .helpAsked
  | [word] => if outerLevel.commands.contains word then .helpAsked else .commandUnknown
  | _ => .commandUnknown

/-- What becomes of arguments without a command. -/
def withoutCommand (outer : Reading) : Except Refusal Invocation := do
  let outer ← outer.settle
  if outer.given.isEmpty then .error .nothingGiven else .error .commandMissing

/-- The call that the arguments make. -/
def parse (args : List String) : Except Refusal Invocation := do
  let (outer, found) ← Reading.readAll outerLevel {} args
  match found with
  | none => withoutCommand outer
  | some (word, rest) =>
    match Verb.ofWord? word with
    | none => .error (helpAbout rest)
    | some v =>
      let inner ← readCommand v rest
      return ofReadings (← outer.settle) v inner

end Invocation

end ContractScan.CommandLine
