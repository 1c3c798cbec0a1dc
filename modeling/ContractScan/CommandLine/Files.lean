import ContractScan.CommandLine.Program

/-!
# Files in memory

A directory tree as a list of files, and paths in it as the system follows them: every step but
the last must lead to a directory. It answers the questions of programs without the outside.
-/

namespace ContractScan

/-- A place: the names from the working directory on. A place above it is written as steps up. -/
abbrev Place := List String

/-- A directory tree: the places of its files and their contents. Directories are there as far as
something is in them, and so are the ones above the working directory. -/
structure Files where
  files : List (Place × ByteArray)
  /-- The places of devices, which hold nothing and keep nothing. -/
  sinks : List Place := []
  /-- The places of further directories. -/
  folders : List Place := []

namespace Files

/-- The name of the directory that another one is in. -/
def up : String := ".."

/-- The name of a directory in itself. -/
def self : String := "."

/-- The most bytes of a name. -/
def maxName : Nat := 255

/-- The most bytes of a path. -/
def maxPath : Nat := 4095

/-- What is at a place. -/
inductive Node
  | file (content : ByteArray)
  | sink
  | directory
  | nothing

/-- The place is the working directory or above it. -/
def isAbove (p : Place) : Bool := p.all (· = up)

/-- All places that something is known of. -/
def places (fs : Files) : List Place := fs.files.map Prod.fst ++ fs.sinks ++ fs.folders

/-- What is at the place. -/
def node (fs : Files) (p : Place) : Node :=
  match fs.files.lookup p with
  | some content => .file content
  | none =>
    if fs.sinks.contains p then .sink
    else if isAbove p || fs.places.any p.isPrefixOf then .directory
    else .nothing

/-- The steps of a path. A slash more makes no step. -/
def steps (path : String) : List String :=
  ((path.toList.splitOn '/').map String.ofList).filter (· ≠ "")

/-- Where a path begins: all that is known of the root is that it is above. -/
def start (path : String) : Place := if path.startsWith "/" then [up] else []

/-- The place that a step leads to, whether there is something or not. -/
def step (fs : Files) (here : Place) (name : String) : Except FileError Place :=
  match fs.node here with
  | .file _ | .sink => .error .notDirectory
  | .nothing => .error .notFound
  | .directory =>
    if name = self then .ok here
    else if name = up then .ok (if isAbove here then here ++ [up] else here.dropLast)
    else if maxName < Text.size name.toList then .error .nameTooLong
    else .ok (here ++ [name])

/-- The place that steps lead to from where the path begins. -/
def follow (fs : Files) (path : String) (names : List String) : Except FileError Place :=
  if path.isEmpty then .error .notFound
  else if maxPath < Text.size path.toList then .error .nameTooLong
  else names.foldlM fs.step (start path)

/-- The place that a path leads to, whether there is something or not. -/
def locate (fs : Files) (path : String) : Except FileError Place := fs.follow path (steps path)

/-- The path can only lead to a directory. -/
def wantsDirectory (path : String) : Bool := path.endsWith "/"

/-- What the path leads to, which must be there. -/
def find (fs : Files) (path : String) : Except FileError Node := do
  match fs.node (← fs.locate path) with
  | .nothing => .error .notFound
  | .directory => .ok .directory
  | found => if wantsDirectory path then .error .notDirectory else .ok found

/-- The content of what the path leads to. -/
def content (fs : Files) (path : String) : Except FileError ByteArray := do
  match ← fs.find path with
  | .file content => .ok content
  | .sink => .ok .empty
  | _ => .error .isDirectory

/-- The path leads to a file. -/
def isFile (fs : Files) (path : String) : Bool :=
  match fs.find path with
  | .ok (.file _) => true
  | _ => false

/-- The text of what the path leads to. -/
def read (fs : Files) (path : String) : Except FileError String := do
  match String.fromUTF8? (← fs.content path) with
  | some s => .ok s
  | none => .error .notText

/-- The tree after the path has been given a text. Where only a directory can be, its last name is
not looked up. -/
def write (fs : Files) (path text : String) : Except FileError Files := do
  if wantsDirectory path then
    let _ ← fs.follow path ((steps path).dropLast ++ [self])
    .error .isDirectory
  else
    let place ← fs.locate path
    match fs.node place with
    | .directory => .error .isDirectory
    | .sink => .ok fs
    | _ =>
      .ok { fs with files := (place, text.toUTF8) :: fs.files.filter fun f ↦ f.1 != place }

end Files

/-- An outside that is known in full. -/
structure World where
  files : Files
  environment : Environment
  time : String
  /-- The reply to any request. -/
  reply : Request → Reply
  /-- The requests that were made, and how, the last one first. -/
  requests : List (FetchSettings × Request) := []

namespace World

/-- The answer to a question, and the world after it. -/
def answer : (q : Question) → StateM World q.Answer
  | .isFile path => fun w ↦ (w.files.isFile path, w)
  | .read path => fun w ↦ (w.files.read path, w)
  | .write path text => fun w ↦
    match w.files.write path text with
    | .ok files => (.ok (), { w with files })
    | .error e => (.error e, w)
  | .environment _ => fun w ↦ (w.environment, w)
  | .send settings request => fun w ↦
    (w.reply request, { w with requests := (settings, request) :: w.requests })
  | .time => fun w ↦ (w.time, w)

/-- The result of a program in the world, and the world after it. -/
def run (w : World) (p : Program α) : α × World := (p.perform answer).run w

end World

end ContractScan
