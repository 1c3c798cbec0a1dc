/-!
# Reading arguments

A level of a command line has switches, positional arguments and commands that open a further
level. Arguments are read one by one. A value is held back until the next switch, the next
positional argument or the end shows that it is complete; only then it is checked.
-/

namespace ContractScan.CommandLine

/-- Why arguments do not make up a call of the program. -/
inductive Refusal
  | helpAsked
  | versionAsked
  /-- There are no arguments at all. -/
  | nothingGiven
  | commandMissing
  | commandUnknown
  | argumentUnknown
  | argumentMissing
  /-- A value is missing or is none of those allowed. -/
  | valueIllegal
  /-- A switch without a value was given one. -/
  | valueUnwanted
  /-- A switch was given twice on one level. -/
  | repeated
deriving DecidableEq, Repr

/-- What a switch takes. -/
inductive Takes
  | nothing
  /-- Nothing, but it counts how often it is given. -/
  | count
  | value (legal : String → Bool)
  /-- Nothing, and it ends the reading. -/
  | stop (why : Refusal)

/-- A switch with its long and its short name. -/
structure Switch where
  name : String
  short : Option Char := none
  takes : Takes

/-- A positional argument, which must be given. -/
structure Positional where
  name : String
  legal : String → Bool

/-- What may stand on one level. -/
structure Level where
  switches : List Switch
  positionals : List Positional := []
  commands : List String := []

/-- A value that has not been checked yet, or the lack of one. -/
structure Pending where
  name : String
  legal : String → Bool
  value : Option String

/-- What has been read on a level. -/
structure Reading where
  /-- The names that were given, with their values, the last one first. -/
  given : List (String × String) := []
  pending : Option Pending := none
  /-- The next argument is the value of a switch, unless it is a switch itself. -/
  awaiting : Bool := false
  /-- Two dashes have ended the switches. -/
  verbatim : Bool := false
  /-- How many positional arguments were given. -/
  positions : Nat := 0

namespace Reading

/-- The name was given. -/
def has (r : Reading) (name : String) : Bool := r.given.any fun g ↦ g.1 == name

/-- The value of the name. -/
def value? (r : Reading) (name : String) : Option String := r.given.lookup name

/-- How often the name was given. -/
def count (r : Reading) (name : String) : Nat := r.given.countP fun g ↦ g.1 == name

/-- A name given with a value, which is checked. -/
def record (r : Reading) (name : String) (legal : String → Bool) (value : String) :
    Except Refusal Reading :=
  if r.has name then .error .repeated
  else if legal value then .ok { r with given := (name, value) :: r.given }
  else .error .valueIllegal

/-- The reading with the value that was held back. -/
def settle (r : Reading) : Except Refusal Reading :=
  match r.pending with
  | none => .ok r
  | some ⟨_, _, none⟩ => .error .valueIllegal
  | some ⟨name, legal, some v⟩ => record { r with pending := none, awaiting := false } name legal v

/-- A switch given without a value. -/
def give (r : Reading) (s : Switch) : Except Refusal Reading := do
  let r ← r.settle
  match s.takes with
  | .nothing =>
    if r.has s.name then .error .repeated else .ok { r with given := (s.name, "") :: r.given }
  | .count => .ok { r with given := (s.name, "") :: r.given }
  | .value legal => .ok { r with pending := some ⟨s.name, legal, none⟩, awaiting := true }
  | .stop why => .error why

/-- A switch given with a value. -/
def giveValue (r : Reading) (s : Switch) (value : String) : Except Refusal Reading :=
  match s.takes with
  | .value legal => do (← r.settle).record s.name legal value
  | _ => .error .valueUnwanted

/-- A switch by its long name, with a value after an equals sign or without. -/
def long (l : Level) (r : Reading) (text : List Char) : Except Refusal Reading :=
  let (name, rest) := text.span (· ≠ '=')
  match l.switches.find? fun s ↦ s.name == String.ofList name with
  | none => .error .argumentUnknown
  | some s =>
    match rest with
    | _ :: value => r.giveValue s (String.ofList value)
    | [] => r.give s

/-- Switches by their short names; what follows one that takes a value is the value. -/
def shorts (l : Level) (r : Reading) : List Char → Except Refusal Reading
  | [] => .ok r
  | c :: cs =>
    match l.switches.find? fun s ↦ s.short == some c with
    | none => .error .argumentUnknown
    | some s =>
      match s.takes, cs with
      | .value _, '=' :: value => r.giveValue s (String.ofList value)
      | .value _, v :: value => r.giveValue s (String.ofList (v :: value))
      | _, cs => do shorts l (← r.give s) cs

/-- A positional argument. -/
def positional (l : Level) (r : Reading) (arg : String) : Except Refusal Reading :=
  match l.positionals[r.positions]? with
  | some p => do
    let r ← r.settle
    return { r with pending := some ⟨p.name, p.legal, some arg⟩, positions := r.positions + 1 }
  | none =>
    if l.commands.isEmpty || (r.verbatim && l.commands.contains arg) then .error .argumentUnknown
    else .error .commandUnknown

/-- An argument that opens no further level. -/
def argument (l : Level) (r : Reading) (arg : String) : Except Refusal Reading :=
  if r.verbatim then r.positional l arg
  else
    match arg.toList with
    | ['-', '-'] => .ok { r with verbatim := true }
    | '-' :: '-' :: text => r.long l text
    | '-' :: c :: cs => r.shorts l (c :: cs)
    | _ =>
      if r.awaiting then
        .ok { r with
          pending := r.pending.map fun p ↦ { p with value := some arg }, awaiting := false }
      else r.positional l arg

/-- The arguments of a level, up to a command and what follows it, if there is one. -/
def readAll (l : Level) (r : Reading) :
    List String → Except Refusal (Reading × Option (String × List String))
  | [] => .ok (r, none)
  | arg :: rest =>
    if !r.verbatim && !r.awaiting && l.commands.contains arg then .ok (r, some (arg, rest))
    else do readAll l (← r.argument l arg) rest

end Reading

end ContractScan.CommandLine
