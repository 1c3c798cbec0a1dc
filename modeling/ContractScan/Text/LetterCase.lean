/-!
# Letter case

Two ways to leave letter case out of a comparison. Vocabularies and messages ignore the case of
ASCII letters only. Rule patterns compare by simple case folding, under which two characters
outside ASCII also equal an ASCII letter: the long s and the Kelvin sign.
-/

namespace ContractScan.Text

/-- Simple case folding, as far as it reaches an ASCII letter. -/
def foldCase (c : Char) : Char :=
  if c = 'ſ' then 's' else if c = '\u212a' then 'k' else c.toLower

/-- The text with its ASCII letters in lower case. -/
def lowerAscii (s : String) : String :=
  String.ofList (s.toList.map Char.toLower)

/-- `part` stands somewhere in the text. -/
def hasInfix (part : List Char) : List Char → Bool
  | [] => part.isEmpty
  | c :: cs => part.isPrefixOf (c :: cs) || hasInfix part cs

/-- The text holds the lower-case `word`, in any ASCII letter case. -/
def mentions (s word : String) : Bool :=
  hasInfix word.toList (s.toList.map Char.toLower)

end ContractScan.Text
