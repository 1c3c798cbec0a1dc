import ContractScan.Json.Parser
import ContractScan.Text.Blank

/-!
# Source bundles

An explorer gives the source of several files as one text: an object that maps paths to objects
with the content, or such an object as the member `sources` of compiler input, which stands in an
extra pair of braces. A bundle is laid out as one text with a header line for each file. Any other
text is source as it stands.
-/

namespace ContractScan.SourceBundle

/-- The text between its first and its last character. -/
def inner (s : List Char) : List Char := (s.drop 1).dropLast

/-- The text begins and ends with the given characters. -/
def enclosed (first last s : List Char) : Bool :=
  first.isPrefixOf s && last.isSuffixOf s

/-- The files that the text holds, as path and description. -/
def entries? (s : List Char) : Option (List (String × Json)) :=
  if enclosed ['{', '{'] ['}', '}'] s then
    ((Json.parse? (inner s)).bind fun j ↦ j.get? "sources").bind Json.members?
  else if enclosed ['{'] ['}'] s then (Json.parse? s).bind Json.members?
  else none

/-- A file: its path and its content. -/
structure File where
  path : String
  content : String
deriving DecidableEq, Repr

/-- The file that an entry describes. -/
def File.ofEntry? (entry : String × Json) : Option File :=
  ((entry.2.get? "content").bind Json.text?).map fun c ↦ ⟨entry.1, c⟩

/-- The file under its header line. -/
def File.layOut (f : File) : String := "// File: " ++ f.path ++ "\n" ++ f.content ++ "\n\n"

/-- The files of a bundle, if the text is one and describes at least one file, and every entry
describes a file. -/
def files? (raw : String) : Option (List File) :=
  ((entries? (Text.trimmed raw.toList)).bind fun es ↦ es.mapM File.ofEntry?).filter
    fun fs ↦ !fs.isEmpty

/-- The source that the text holds: the files of a bundle one after the other, or else the text
itself. -/
def unpack (raw : String) : String :=
  match files? raw with
  | some fs => String.join (fs.map File.layOut)
  | none => raw

end ContractScan.SourceBundle
