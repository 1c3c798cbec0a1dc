import ContractScan.Json.Bounds

/-!
# Reading JSON text

`Json.scan?` reads a text by the grammar alone; `Json.parse?` also takes the value in whole. The
readers work on lists of characters and give back what is left. The number of values in a text is
bounded by its length, which serves as fuel.
-/

namespace ContractScan.Json.Parser

/-- What is left after the white space of the format. -/
def skip (s : List Char) : List Char :=
  s.dropWhile fun c ↦ c == ' ' || c == '\n' || c == '\t' || c == '\r'

/-- What an escape may stand for. -/
inductive Piece
  | scalar (c : Char)
  /-- One half of a surrogate pair. -/
  | half (unit : Nat)
deriving DecidableEq, Repr

/-- The piece with the given 16-bit code unit. -/
def Piece.ofUnit (unit : Nat) : Piece :=
  if 0xd800 ≤ unit ∧ unit ≤ 0xdfff then .half unit else .scalar (Char.ofNat unit)

/-- The character that a letter after a backslash stands for. -/
def shortEscape? : Char → Option Char
  | '"' => some '"'
  | '\\' => some '\\'
  | '/' => some '/'
  | 'b' => some '\x08'
  | 'f' => some '\x0c'
  | 'n' => some '\n'
  | 'r' => some '\r'
  | 't' => some '\t'
  | _ => none

/-- The code unit of four hexadecimal digits. -/
def unit? (a b c d : Char) : Option Nat := Text.numeral? 16 [a, b, c, d]

/-- The pieces of a text up to its closing quote, onto those already read, last one first. -/
def pieces (acc : List Piece) : List Char → Option (List Piece × List Char)
  | '"' :: s => some (acc, s)
  | '\\' :: 'u' :: a :: b :: c :: d :: s =>
    match unit? a b c d with
    | some unit => pieces (.ofUnit unit :: acc) s
    | none => none
  | '\\' :: e :: s =>
    match shortEscape? e with
    | some c => pieces (.scalar c :: acc) s
    | none => none
  | c :: s => if c.toNat < 0x20 || c == '\\' then none else pieces (.scalar c :: acc) s
  | [] => none

/-- The characters of the pieces, which come last one first, before those already found. Two
halves side by side stand for one character; a half by itself stands for none. -/
def joined (acc : List Char) : List Piece → Option (List Char)
  | [] => some acc
  | .scalar c :: ps => joined (c :: acc) ps
  | .half low :: .half high :: ps =>
    if high < 0xdc00 ∧ 0xdc00 ≤ low then
      joined (Char.ofNat (0x10000 + (high - 0xd800) * 0x400 + (low - 0xdc00)) :: acc) ps
    else none
  | .half _ :: _ => none

/-- A text, after its opening quote; `none` as its content where it has no characters. -/
def text (s : List Char) : Option (Option String × List Char) :=
  (pieces [] s).map fun (ps, r) ↦ ((joined [] ps).map String.ofList, r)

/-- The digits at the beginning, at least one. -/
def digits (s : List Char) : Option (List Char × List Char) :=
  match s.span Char.isDigit with
  | ([], _) => none
  | (ds, r) => some (ds, r)

/-- The integer part of a number: no zero in front of another digit. -/
def whole (s : List Char) : Option (List Char × List Char) :=
  match digits s with
  | some ('0' :: _ :: _, _) => none
  | other => other

/-- The fraction of a number, if one follows. -/
def fraction : List Char → Option (List Char × List Char)
  | '.' :: s => digits s
  | s => some ([], s)

/-- The exponent of a number, if one follows, and whether one does. -/
def exponent : List Char → Option (Int × Bool × List Char)
  | c :: s =>
    if c == 'e' || c == 'E' then
      match s with
      | '-' :: s => (digits s).map fun (ds, r) ↦ (-(Text.numeral 10 ds : Int), true, r)
      | '+' :: s => (digits s).map fun (ds, r) ↦ ((Text.numeral 10 ds : Int), true, r)
      | s => (digits s).map fun (ds, r) ↦ ((Text.numeral 10 ds : Int), true, r)
    else some (0, false, c :: s)
  | [] => some (0, false, [])

/-- A number without its sign, readable if it is within bounds. -/
def magnitude (negative : Bool) (s : List Char) : Option (Json × List Char) := do
  let (ws, s) ← whole s
  let (fs, s) ← fraction s
  let (e, scaled, s) ← exponent s
  if inBounds ws fs e then
    return (.number {
      negative
      mantissa := Text.numeral 10 (ws ++ fs)
      exponent := e - fs.length
      integral := fs.isEmpty && !scaled }, s)
  else return (.unreadable, s)

/-- A number as a value. -/
def number : List Char → Option (Json × List Char)
  | '-' :: s => magnitude true s
  | s => magnitude false s

/-- A text as a value, readable if it has characters. -/
def ofText : Option String → Json
  | some s => .text s
  | none => .unreadable

/-- The object with the given members, readable if all their names are. -/
def ofMembers (ms : List (Option String × Json)) : Json :=
  if ms.all fun m ↦ m.1.isSome then .object (ms.map fun m ↦ (m.1.getD "", m.2)) else .unreadable

mutual

/-- A value. -/
def value : Nat → List Char → Option (Json × List Char)
  | 0, _ => none
  | fuel + 1, s =>
    match skip s with
    | 'n' :: 'u' :: 'l' :: 'l' :: r => some (.null, r)
    | 't' :: 'r' :: 'u' :: 'e' :: r => some (.bool true, r)
    | 'f' :: 'a' :: 'l' :: 's' :: 'e' :: r => some (.bool false, r)
    | '"' :: r => (text r).map fun (t, r) ↦ (ofText t, r)
    | '[' :: r =>
      match skip r with
      | ']' :: r => some (.array [], r)
      | r => (items fuel r).map fun (xs, r) ↦ (.array xs, r)
    | '{' :: r =>
      match skip r with
      | '}' :: r => some (.object [], r)
      | r => (members fuel r).map fun (ms, r) ↦ (ofMembers ms, r)
    | r => number r

/-- The items of an array, at least one, up to its closing bracket. -/
def items : Nat → List Char → Option (List Json × List Char)
  | 0, _ => none
  | fuel + 1, s =>
    match value fuel s with
    | none => none
    | some (x, r) =>
      match skip r with
      | ',' :: r => (items fuel r).map fun (xs, r) ↦ (x :: xs, r)
      | ']' :: r => some ([x], r)
      | _ => none

/-- The members of an object, at least one, up to its closing brace. -/
def members : Nat → List Char → Option (List (Option String × Json) × List Char)
  | 0, _ => none
  | fuel + 1, s =>
    match member fuel s with
    | none => none
    | some (m, r) =>
      match skip r with
      | ',' :: r => (members fuel r).map fun (ms, r) ↦ (m :: ms, r)
      | '}' :: r => some ([m], r)
      | _ => none

/-- A member of an object. -/
def member : Nat → List Char → Option ((Option String × Json) × List Char)
  | 0, _ => none
  | fuel + 1, s =>
    match skip s with
    | '"' :: r =>
      match text r with
      | none => none
      | some (name, r) =>
        match skip r with
        | ':' :: r => (value fuel r).map fun (x, r) ↦ ((name, x), r)
        | _ => none
    | _ => none

end

end ContractScan.Json.Parser

namespace ContractScan.Json

/-- The value that the text stands for by the grammar of JSON. -/
def scan? (s : List Char) : Option Json :=
  match Parser.value (2 * s.length + 1) s with
  | some (j, r) => if (Parser.skip r).isEmpty then some j else none
  | none => none

/-- The value that the text stands for, taken in whole. -/
def parse? (s : List Char) : Option Json := (scan? s).bind (settle? maxDepth)

end ContractScan.Json
