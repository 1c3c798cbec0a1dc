import ContractScan.Analysis.Codec
import ContractScan.CommandLine.Error
import ContractScan.CommandLine.Help
import ContractScan.Json.Printer
import ContractScan.Report.Listing

/-!
# Runs

What a call of the program does: it loads the settings, does what it is asked to, and ends with an
outcome. A failure ends it at once.
-/

namespace ContractScan.CommandLine

/-- The exit status for findings at or above the gate. -/
def findingsStatus : Nat := 2

/-- Where a run takes place. -/
structure Surroundings where
  /-- The folder of the user's settings. -/
  folder : Option String
  /-- Reports have colours. -/
  color : Bool
deriving DecidableEq, Repr

/-- The terminal is to have colours: some variables force them or forbid them, and otherwise it
is a matter of the terminal. -/
def wantsColor (env : Environment) (terminal : Bool) : Bool :=
  let on := fun name ↦ (env name).map (· != "0")
  if on "CLICOLOR_FORCE" = some true then true
  else if (env "NO_COLOR").isSome then false
  else (on "CLICOLOR").getD true && terminal

namespace Surroundings

/-- The variables that bear on the surroundings. -/
def variableNames : List String :=
  ["CLICOLOR_FORCE", "NO_COLOR", "CLICOLOR", "XDG_CONFIG_HOME", "HOME"]

/-- The surroundings of a run that writes to a terminal or not. -/
def ofEnvironment (env : Environment) (terminal : Bool) : Surroundings :=
  ⟨Settings.folder? env, wantsColor env terminal⟩

end Surroundings

/-- A part of a run, which may fail. -/
abbrev Task := ExceptT RunError Program

namespace Task

/-- The answer to a question. -/
def ask (q : Question) : Task q.Answer := ExceptT.lift (Program.question q)

/-- A result or a failure. -/
def ofExcept (toError : ε → RunError) : Except ε α → Task α
  | .ok a => pure a
  | .error e => throw (toError e)

/-- The text of a file. -/
def read (path : String) : Task String := do ofExcept .file (← ask (.read path))

end Task

/-- The document with the settings: the one that is named, which must be a file, or else the
user's, if there is one. -/
def settingsText (folder path : Option String) : Task (Option String) :=
  match path with
  | some p => do
    if ← Task.ask (.isFile p) then some <$> Task.read p
    else throw (.settings (.invalidFile p))
  | none =>
    match folder.map Settings.userFile with
    | none => return none
    | some p => do if ← Task.ask (.isFile p) then some <$> Task.read p else return none

/-- The settings by document and environment. -/
def loadSettings (folder path : Option String) : Task Settings := do
  let settings ← Task.ofExcept .settings (Settings.ofDocument (← settingsText folder path))
  return settings.override (← Task.ask (.environment settings.variableNames))

/-- A contract from its service. -/
def fetchContract (s : Settings) (c : Call) : Task Contract := do
  let (network, address) := c.target
  let request ← Task.ofExcept .fetch (s.request network address)
  let reply ←
    match request.fault? with
    | some e => pure (.error e)
    | none =>
      if s.fetch.deadlineExists then Task.ask (.send s.fetch request) else throw .deadline
  Task.ofExcept .fetch (reply.contract network address)

/-- The value as it is printed. -/
def printed (j : Json) : String := String.ofList (j.pretty 0 ++ ['\n'])

/-- The outcome of a run without failure. -/
def success (output : String) : Outcome := { status := 0, output }

/-- Analyses a source file. -/
def runAnalyze (env : Surroundings) (i : Invocation) (s : Settings) (file : String)
    (origin : Option String) (minSeverity failOn : Option Severity) : Task Outcome := do
  let a := ContractScan.analyze (← Task.read file) origin
  let output ←
    if i.json then do pure (printed (a.toJsonAt (← Task.ask .time)))
    else if i.quiet then pure ""
    else pure (Report.render env.color (a.report (minSeverity.getD s.report.minSeverity) true))
  let failed := failOn.any fun gate ↦ !(a.atLeast gate).isEmpty
  return { status := if failed then findingsStatus else 0, output }

/-- The call that an argument makes, which is an address or the page of one. -/
def callOf (address : String) (hint : Option String) : Call :=
  match Network.ofPage? address with
  | some (a, n) => .on n a
  | none => .detected address hint

/-- The report of a fetched contract and its analysis, if there is one. -/
def fetchReport (c : Contract) (analysis : Option Analysis) (skipped : Bool)
    (threshold : Severity) : List Report.Line :=
  let note : List Report.Line :=
    [[], [.plain "Not analyzed: no Solana program source is available, only account metadata."]]
  c.report ++ (if skipped then note else []) ++
    (analysis.map fun a ↦ [] :: a.report threshold true).getD []

/-- Fetches a contract, writes its source to a file if asked to, and analyses it if asked to and
if there is a source. -/
def runFetch (env : Surroundings) (i : Invocation) (s : Settings) (address : String)
    (hint : Option String) (analyzes : Bool) (output : Option String)
    (minSeverity : Option Severity) : Task Outcome := do
  if !s.fetch.agentAllowed then
    throw (.fetch (.unreachable "cannot build HTTP client: builder error"))
  let c ← fetchContract s (callOf address hint)
  if let some path := output then
    Task.ofExcept .file (← Task.ask (.write path c.source))
  let analysis :=
    if analyzes && c.analyzable then some (ContractScan.analyze c.source (some c.page)) else none
  if i.json then
    let time ← Task.ask .time
    return success (printed (.object [
      ("contract", c.toJson),
      ("analysis", (analysis.map (Analysis.toJsonAt · time)).getD .null)]))
  else if i.quiet then return success ""
  else
    let threshold := minSeverity.getD s.report.minSeverity
    return success (Report.render env.color
      (fetchReport c analysis (analyzes && !c.analyzable) threshold))

/-- A list, as a report or as values. -/
def runList (env : Surroundings) (i : Invocation) (values : List Json)
    (report : List Report.Line) : Outcome :=
  success (if i.json then printed (.array values) else Report.render env.color report)

/-- Does what the call asks for. -/
def runCommand (env : Surroundings) (i : Invocation) (s : Settings) (catalog : List Rule) :
    Task Outcome :=
  match i.command with
  | .analyze file origin minSeverity failOn => runAnalyze env i s file origin minSeverity failOn
  | .fetch address hint analyzes output minSeverity =>
    runFetch env i s address hint analyzes output minSeverity
  | .rules set =>
    let rules := catalog.filter fun r ↦ set.all (· == r.set)
    return runList env i (rules.map Rule.toListing) (Rule.report set)
  | .networks => return runList env i (Network.all.map Network.toListing) Network.report
  | .examples network =>
    return runList env i ((KnownContract.on network).map KnownContract.toJson)
      (KnownContract.report network)

/-- The outcome of a failure. -/
def failure (e : RunError) : Outcome where
  status := e.status
  errors := e.lines

/-- The run of a call. -/
def run (env : Surroundings) (i : Invocation) : Program Outcome := do
  let result ← ExceptT.run do
    let s ← loadSettings env.folder i.config
    let catalog ← Task.ofExcept .rules (Rule.checked Rule.catalog)
    runCommand env i s catalog
  match result with
  | .ok outcome => return outcome
  | .error e => return failure e

/-- The run of the program with the given arguments. -/
def start (env : Surroundings) (args : List String) : Program Outcome :=
  match Invocation.parse args with
  | .ok i => run env i
  | .error r => .done r.outcome

end ContractScan.CommandLine
