import ContractScan.Json.Basic

/-!
# Writing JSON text

Two layouts: everything on one line without blanks, and one item or member to a line with two
blanks for each level. In texts only what must be escaped is.
-/

namespace ContractScan.Json

namespace Number

/-- The digits with a point before the last `places`, at least one digit in front of it. -/
def positional (digits : List Char) (places : Nat) : List Char :=
  let padded := List.replicate (places + 1 - digits.length) '0' ++ digits
  let front := padded.length - places
  padded.take front ++ '.' :: padded.drop front

/-- The number in digits. -/
def render (n : Number) : List Char :=
  let digits := Nat.toDigits 10 n.mantissa
  let body :=
    if n.exponent < 0 then positional digits n.exponent.natAbs
    else digits ++ List.replicate n.exponent.toNat '0'
  if n.negative then '-' :: body else body

end Number

/-- A character inside quotes. -/
def escape (c : Char) : List Char :=
  if c = '"' then ['\\', '"']
  else if c = '\\' then ['\\', '\\']
  else if c = '\x08' then ['\\', 'b']
  else if c = '\x0c' then ['\\', 'f']
  else if c = '\n' then ['\\', 'n']
  else if c = '\r' then ['\\', 'r']
  else if c = '\t' then ['\\', 't']
  else if c.toNat < 0x20 then ['\\', 'u', '0', '0'] ++ Text.hexByte c.toNat
  else [c]

/-- A text in quotes. -/
def quote (s : String) : List Char := '"' :: (s.toList.flatMap escape ++ ['"'])

mutual

/-- The value on one line. -/
def render : Json → List Char
  | .null => "null".toList
  | .bool true => "true".toList
  | .bool false => "false".toList
  | .number n => n.render
  | .text s => quote s
  | .array xs => '[' :: (renderItems xs ++ [']'])
  | .object ms => '{' :: (renderMembers ms ++ ['}'])
  | .unreadable => "null".toList

/-- The items, with commas between them. -/
def renderItems : List Json → List Char
  | [] => []
  | [x] => render x
  | x :: xs => render x ++ ',' :: renderItems xs

/-- The members, with commas between them. -/
def renderMembers : List (String × Json) → List Char
  | [] => []
  | [(name, x)] => quote name ++ ':' :: render x
  | (name, x) :: ms => quote name ++ ':' :: (render x ++ ',' :: renderMembers ms)

end

/-- A new line, indented for the level. -/
def newline (level : Nat) : List Char := '\n' :: List.replicate (2 * level) ' '

mutual

/-- The value with one item or member to a line, inside the given number of levels. -/
def pretty (level : Nat) : Json → List Char
  | .array [] => "[]".toList
  | .array xs => '[' :: (prettyItems (level + 1) xs ++ newline level ++ [']'])
  | .object [] => ['{', '}']
  | .object ms => '{' :: (prettyMembers (level + 1) ms ++ newline level ++ ['}'])
  | .null => "null".toList
  | .bool true => "true".toList
  | .bool false => "false".toList
  | .number n => n.render
  | .text s => quote s
  | .unreadable => "null".toList

/-- The items, each on a line of its own. -/
def prettyItems (level : Nat) : List Json → List Char
  | [] => []
  | [x] => newline level ++ pretty level x
  | x :: xs => newline level ++ pretty level x ++ ',' :: prettyItems level xs

/-- The members, each on a line of its own. -/
def prettyMembers (level : Nat) : List (String × Json) → List Char
  | [] => []
  | [(name, x)] => newline level ++ quote name ++ ':' :: ' ' :: pretty level x
  | (name, x) :: ms =>
    newline level ++ quote name ++ ':' :: ' ' :: (pretty level x ++ ',' :: prettyMembers level ms)

end

end ContractScan.Json
