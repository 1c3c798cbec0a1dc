import ContractScan.CommandLine.Run
import ContractScan.Instant
import Std.Time.DateTime.Timestamp

/-!
# The program

Answers the questions of a run from the system, prints its outcome and ends with its status. There
is no way to the network from here: a request that goes out brings no reply.
-/

namespace ContractScan.CommandLine

/-- What a failure of the system says about a file. -/
def fileError (e : IO.Error) : FileError :=
  match e with
  | .noFileOrDirectory _ _ _ => .notFound
  | .permissionDenied _ code details | .inappropriateType _ code details
  | .resourceExhausted _ code details | .alreadyExists _ code details
  | .invalidArgument _ code details | .noSuchThing _ code details
  | .interrupted _ code details | .otherError code details | .resourceBusy code details
  | .resourceVanished code details | .unsupportedOperation code details
  | .hardwareFault code details | .unsatisfiedConstraints code details
  | .illegalOperation code details | .protocolError code details | .timeExpired code details =>
    ⟨details ++ " (os error " ++ toString code ++ ")"⟩
  | .unexpectedEof => ⟨"unexpected end of file"⟩
  | .userError message => ⟨message⟩

/-- The result of work with a file. -/
def attempting (work : IO α) : IO (Except FileError α) := do
  try return .ok (← work) catch e => return .error (fileError e)

/-- The text of a file. -/
def readText (path : String) : IO (Except FileError String) := do
  match ← attempting (IO.FS.readBinFile path) with
  | .error e => return .error e
  | .ok bytes =>
    match String.fromUTF8? bytes with
    | some text => return .ok text
    | none => return .error .notText

/-- There is a file at the path. -/
def hasFile (path : String) : IO Bool := do
  try return (← (← IO.FS.realPath path).metadata).type == .file catch _ => return false

/-- The values of the named variables. -/
def lookUp (names : List String) : IO Environment := do
  let values ← names.mapM fun name ↦ return (name, ← IO.getEnv name)
  return fun name ↦ (values.lookup name).join

/-- The time it is. -/
def currentTime : IO Instant := do
  let t ← Std.Time.Timestamp.now
  let n := t.toNanosecondsSinceUnixEpoch.val.toNat
  return ⟨n / 1000000000, n % 1000000000⟩

/-- The answer of the system to a question. -/
def systemAnswer : (q : Question) → IO q.Answer
  | .isFile path => hasFile path
  | .read path => readText path
  | .write path text => attempting (IO.FS.writeFile path text)
  | .environment names => lookUp names
  | .send _ request =>
    return .error (.failed ("error sending request for url (" ++ request.targetText ++ ")"))
  | .time => return (← currentTime).render

end ContractScan.CommandLine

open ContractScan CommandLine in
/-- Runs the program with the arguments. -/
def main (args : List String) : IO UInt32 := do
  let surroundings := Surroundings.ofEnvironment (← lookUp Surroundings.variableNames)
    (← (← IO.getStdout).isTty)
  let outcome ← (start surroundings args).perform systemAnswer
  IO.print outcome.output
  for line in outcome.errors do
    IO.eprintln line
  return UInt32.ofNat outcome.status
