import ContractScan.Text.Numeral
import ContractScan.Text.Utf8
import ContractScan.Toml.Table

/-!
# Reading TOML

The grammar of TOML 1.0. The readers work on lists of characters and give back what is left. What
is read step by step is bounded by the length of the document, which serves as fuel; in addition
neither values nor keys may have eighty levels.
-/

namespace ContractScan.Toml.Parser

/-- What is left after blanks and tabs. -/
def skipBlanks (s : List Char) : List Char := s.dropWhile fun c ↦ c == ' ' || c == '\t'

/-- What is left after a line end. -/
def newline? : List Char → Option (List Char)
  | '\n' :: s => some s
  | '\r' :: '\n' :: s => some s
  | _ => none

/-- A character that may stand in a comment or a text on one line. -/
def isPlain (c : Char) : Bool := c = '\t' || (0x20 ≤ c.toNat && c.toNat ≠ 0x7f)

/-- What is left after a comment, if there is one. -/
def skipComment : List Char → List Char
  | '#' :: s => s.dropWhile isPlain
  | s => s

/-- What is left after the end of a line or of the document. -/
def lineEnd? : List Char → Option (List Char)
  | [] => some []
  | s => newline? s

/-- What is left after the rest of a line, which may hold a comment. -/
def lineRest? (s : List Char) : Option (List Char) := lineEnd? (skipComment (skipBlanks s))

/-- What is left after blanks, comments and line ends, where a comment may already have begun. -/
def skipLines (comment : Bool) : List Char → Option (List Char)
  | '\n' :: s => skipLines false s
  | '\r' :: '\n' :: s => skipLines false s
  | c :: s =>
    if comment then if isPlain c then skipLines true s else none
    else if c = '#' then skipLines true s
    else if c = ' ' ∨ c = '\t' then skipLines false s
    else some (c :: s)
  | [] => if comment then none else some []

/-- The first characters of a text, if there are that many, and what is left. -/
def cut? (n : Nat) (s : List Char) : Option (List Char × List Char) :=
  let front := s.take n
  if front.length < n then none else some (front, s.drop n)

/-- The character of a code point in hexadecimal. -/
def codePoint? (ds : List Char) : Option Char := do
  let n ← Text.numeral? 16 ds
  if n.isValidChar then some (Char.ofNat n) else none

/-- The character that an escape stands for, after its backslash. -/
def escaped? : List Char → Option (Char × List Char)
  | 'b' :: s => some ('\x08', s)
  | 't' :: s => some ('\t', s)
  | 'n' :: s => some ('\n', s)
  | 'f' :: s => some ('\x0c', s)
  | 'r' :: s => some ('\r', s)
  | '"' :: s => some ('"', s)
  | '\\' :: s => some ('\\', s)
  | 'u' :: s => do
    let (ds, s) ← cut? 4 s
    return (← codePoint? ds, s)
  | 'U' :: s => do
    let (ds, s) ← cut? 8 s
    return (← codePoint? ds, s)
  | _ => none

/-- A text in quotes on one line, after its opening quote. -/
def basicText (fuel : Nat) (acc : List Char) (s : List Char) : Option (String × List Char) :=
  match fuel, s with
  | 0, _ | _, [] => none
  | fuel + 1, c :: s =>
    if c = '"' then some (String.ofList acc.reverse, s)
    else if c = '\\' then
      match escaped? s with
      | some (c, s) => basicText fuel (c :: acc) s
      | none => none
    else if isPlain c then basicText fuel (c :: acc) s
    else none

/-- A text in apostrophes on one line, after the opening one. -/
def literalText (s : List Char) : Option (String × List Char) :=
  match s.span fun c ↦ c ≠ '\'' && isPlain c with
  | (cs, '\'' :: r) => some (String.ofList cs, r)
  | _ => none

/-- What is left after blanks, tabs and line ends. -/
def skipBlankLines : List Char → List Char
  | ' ' :: s | '\t' :: s | '\n' :: s | '\r' :: '\n' :: s => skipBlankLines s
  | s => s

/-- What is left after a backslash at the end of a line: the next lines up to what is not blank. -/
def continued? (s : List Char) : Option (List Char) :=
  (newline? (skipBlanks s)).map skipBlankLines

/-- The end of a text over several lines, where `n` quotes follow each other: three of them close
it and up to two more belong to it. -/
def closing? (quote : Char) (n : Nat) (acc : List Char) : Option String :=
  if n ≤ 5 then some (String.ofList (acc.reverse ++ List.replicate (n - 3) quote)) else none

/-- A text over several lines, after its opening quotes; escapes count inside double quotes. -/
def longText (quote : Char) (fuel : Nat) (acc : List Char) (s : List Char) :
    Option (String × List Char) :=
  match fuel, s with
  | 0, _ | _, [] => none
  | fuel + 1, c :: s =>
    if c = quote then
      let more := s.takeWhile (· = quote)
      let n := more.length + 1
      let r := s.drop more.length
      if n < 3 then longText quote fuel (List.replicate n quote ++ acc) r
      else (closing? quote n acc).map fun t ↦ (t, r)
    else if c = '\\' ∧ quote = '"' then
      match escaped? s with
      | some (c, s) => longText quote fuel (c :: acc) s
      | none =>
        match continued? s with
        | some s => longText quote fuel acc s
        | none => none
    else if isPlain c then longText quote fuel (c :: acc) s
    else
      match newline? (c :: s) with
      | some s => longText quote fuel ('\n' :: acc) s
      | none => none

/-- What is left after a line end right after opening quotes. -/
def skipFirstNewline (s : List Char) : List Char := (newline? s).getD s

/-- A text in any of the four ways. -/
def text (fuel : Nat) (s : List Char) : Option (String × List Char) :=
  match s with
  | '"' :: '"' :: '"' :: r => longText '"' fuel [] (skipFirstNewline r)
  | '\'' :: '\'' :: '\'' :: r => longText '\'' fuel [] (skipFirstNewline r)
  | '"' :: r => basicText fuel [] r
  | '\'' :: r => literalText r
  | _ => none

/-- A character of a key without quotes. -/
def isBare (c : Char) : Bool := c.isAlphanum || c = '_' || c = '-'

/-- A part of a key. -/
def simpleKey (fuel : Nat) (s : List Char) : Option (String × List Char) :=
  match s with
  | '"' :: r => basicText fuel [] r
  | '\'' :: r => literalText r
  | s =>
    match s.span isBare with
    | ([], _) => none
    | (cs, r) => some (String.ofList cs, r)

/-- How many levels a value or a key must stay below. -/
def maxDepth : Nat := 80

/-- The parts of a dotted key, with blanks around them. -/
def keyParts : Nat → List Char → Option (List String × List Char)
  | 0, _ => none
  | fuel + 1, s => do
    let (k, r) ← simpleKey fuel (skipBlanks s)
    match skipBlanks r with
    | '.' :: r => (keyParts fuel r).map fun (ks, r) ↦ (k :: ks, r)
    | r => some ([k], r)

/-- A dotted key as its path and its last part. -/
def key (fuel : Nat) (s : List Char) : Option (List String × String × List Char) := do
  let (ks, r) ← keyParts fuel s
  if ks.length ≥ maxDepth then none
  return (ks.dropLast, ← ks.getLast?, r)

/-- A row of digits with single underscores between them. -/
def digitRow (base : Nat) (s : List Char) : Option (List Char × List Char) :=
  let (cs, r) := s.span fun c ↦ Text.isDigitIn base c || c == '_'
  if (cs.splitOn '_').any List.isEmpty then none else some (cs.filter (· ≠ '_'), r)

/-- A row of decimal digits without a zero in front of another digit. -/
def decimalRow (s : List Char) : Option (List Char × List Char) := do
  match ← digitRow 10 s with
  | ('0' :: _ :: _, _) => none
  | other => some other

/-- A sign, if there is one: whether it is a minus. -/
def sign : List Char → Bool × List Char
  | '-' :: s => (true, s)
  | '+' :: s => (false, s)
  | s => (false, s)

/-- An integer that fits 64 bits. -/
def integerOf? (negative : Bool) (n : Nat) : Option Toml :=
  let i : Int := if negative then -(n : Int) else n
  if Json.fitsWord i then some (.integer i) else none

/-- The digits of a fraction, if there is one. -/
def fraction : List Char → Option (List Char × List Char)
  | '.' :: s => digitRow 10 s
  | s => some ([], s)

/-- An exponent, if there is one. -/
def exponent : List Char → Option (Option Int × List Char)
  | c :: s =>
    if c == 'e' || c == 'E' then do
      let (negative, s) := sign s
      let (ds, r) ← digitRow 10 s
      let e : Int := Text.numeral 10 ds
      return (some (if negative then -e else e), r)
    else some (none, c :: s)
  | [] => some (none, [])

/-- A float, of which only those that grow beyond all bounds upwards are refused. -/
def floatOf? (n : Json.Number) : Option Toml :=
  if n.negative || n.finite then some .float else none

/-- A number in decimal digits, after its sign. -/
def decimal (negative : Bool) (s : List Char) : Option (Toml × List Char) := do
  let (ds, r) ← decimalRow s
  let (fs, r') ← fraction r
  let (e, r') ← exponent r'
  if fs.isEmpty && e.isNone then return (← integerOf? negative (Text.numeral 10 ds), r)
  let size := {
    negative, mantissa := Text.numeral 10 (ds ++ fs), exponent := e.getD 0 - fs.length }
  return (← floatOf? size, r')

/-- A number: an integer in one of four bases, or a float. -/
def number (s : List Char) : Option (Toml × List Char) :=
  let based := fun (base : Nat) (r : List Char) ↦ do
    let (ds, r) ← digitRow base r
    return (← integerOf? false (Text.numeral base ds), r)
  match s with
  | '0' :: 'x' :: r => based 16 r
  | '0' :: 'o' :: r => based 8 r
  | '0' :: 'b' :: r => based 2 r
  | s =>
    match sign s with
    | (_, 'i' :: 'n' :: 'f' :: r) => some (.float, r)
    | (_, 'n' :: 'a' :: 'n' :: r) => some (.float, r)
    | (negative, s) => decimal negative s

/-- The number of exactly `n` digits. -/
def fixed (n : Nat) (s : List Char) : Option (Nat × List Char) := do
  let (ds, r) ← cut? n s
  return (← Text.numeral? 10 ds, r)

/-- How many days a month has. -/
def daysIn (year month : Nat) : Nat :=
  if month = 2 then
    if year % 4 = 0 ∧ (year % 100 ≠ 0 ∨ year % 400 = 0) then 29 else 28
  else if [4, 6, 9, 11].contains month then 30
  else 31

/-- What is left after a date. -/
def day? (s : List Char) : Option (List Char) := do
  let (y, s) ← fixed 4 s
  let '-' :: s := s | none
  let (m, s) ← fixed 2 s
  let '-' :: s := s | none
  let (d, s) ← fixed 2 s
  if 1 ≤ m ∧ m ≤ 12 ∧ 1 ≤ d ∧ d ≤ daysIn y m then some s else none

/-- What is left after a time of day. -/
def time? (s : List Char) : Option (List Char) := do
  let (h, s) ← fixed 2 s
  let ':' :: s := s | none
  let (m, s) ← fixed 2 s
  let ':' :: s := s | none
  let (sec, s) ← fixed 2 s
  if h > 23 ∨ m > 59 ∨ sec > 60 then none
  match s with
  | '.' :: r =>
    match r.span Char.isDigit with
    | ([], _) => none
    | (_, r) => some r
  | s => some s

/-- What is left after an offset, if there is one. -/
def offset? (s : List Char) : Option (List Char) :=
  match s with
  | 'Z' :: s | 'z' :: s => some s
  | c :: r =>
    if c = '+' ∨ c = '-' then do
      let (h, r) ← fixed 2 r
      let ':' :: r := r | none
      let (m, r) ← fixed 2 r
      if h > 23 ∨ m > 59 then none else some r
    else some s
  | [] => some []

/-- What is left after a date, a time, or both. -/
def date? (s : List Char) : Option (List Char) :=
  match day? s with
  | none => time? s
  | some r =>
    match r with
    | c :: t =>
      if c = 'T' ∨ c = 't' ∨ c = ' ' then
        match time? t with
        | some t => offset? t
        | none => some r
      else some r
    | [] => some []

/-- A date or a number. -/
def scalar (s : List Char) : Option (Toml × List Char) :=
  match date? s with
  | some r => some (.date, r)
  | none => number s

mutual

/-- A value inside `depth` others. -/
def value (depth : Nat) : Nat → List Char → Option (Toml × List Char)
  | 0, _ => none
  | fuel + 1, s =>
    match s with
    | 't' :: 'r' :: 'u' :: 'e' :: r => some (.bool true, r)
    | 'f' :: 'a' :: 'l' :: 's' :: 'e' :: r => some (.bool false, r)
    | '[' :: r =>
      if depth + 1 ≥ maxDepth then none
      else (items (depth + 1) fuel r).map fun (xs, r) ↦ (.array xs, r)
    | '{' :: r =>
      if depth + 1 ≥ maxDepth then none
      else
        match skipBlanks r with
        | '}' :: r => some (.table .inline [], r)
        | r => do
          let (ps, r) ← pairs (depth + 1) fuel r
          return (← inlineTable? ps, r)
    | c :: _ =>
      if c = '"' ∨ c = '\'' then (text fuel s).map fun (t, r) ↦ (.text t, r)
      else scalar s
    | [] => none

/-- The items of an array up to its closing bracket. -/
def items (depth : Nat) : Nat → List Char → Option (List Toml × List Char)
  | 0, _ => none
  | fuel + 1, s => do
    match ← skipLines false s with
    | ']' :: r => some ([], r)
    | r => do
      let (x, r) ← value depth fuel r
      match ← skipLines false r with
      | ',' :: r => (items depth fuel r).map fun (xs, r) ↦ (x :: xs, r)
      | ']' :: r => some ([x], r)
      | _ => none

/-- The assignments of a table in braces, at least one, up to its closing brace. -/
def pairs (depth : Nat) : Nat → List Char →
    Option (List (List String × String × Toml) × List Char)
  | 0, _ => none
  | fuel + 1, s => do
    let (path, k, r) ← key fuel s
    match r with
    | '=' :: r => do
      let (v, r) ← value depth fuel (skipBlanks r)
      match skipBlanks r with
      | ',' :: r => (pairs depth fuel r).map fun (ps, r) ↦ ((path, k, v) :: ps, r)
      | '}' :: r => some ([(path, k, v)], r)
      | _ => none
    | _ => none

end

/-- A statement and the rest of its line. -/
def statement (fuel : Nat) (s : List Char) : Option (Statement × List Char) := do
  match s with
  | '[' :: '[' :: r =>
    let (path, k, r) ← key fuel r
    let ']' :: ']' :: r := r | none
    return (.item (path ++ [k]), ← lineRest? r)
  | '[' :: r =>
    let (path, k, r) ← key fuel r
    let ']' :: r := r | none
    return (.header (path ++ [k]), ← lineRest? r)
  | s =>
    let (path, k, r) ← key fuel s
    let '=' :: r := r | none
    let (v, r) ← value 0 (2 * fuel) (skipBlanks r)
    return (.assign path k v, ← lineRest? r)

/-- The statements of a document. -/
def statements : Nat → List Char → Option (List Statement)
  | 0, _ => none
  | fuel + 1, s =>
    match skipBlanks s with
    | [] => some []
    | '#' :: r => (lineEnd? (r.dropWhile isPlain)).bind (statements fuel)
    | r =>
      match newline? r with
      | some r => statements fuel r
      | none => do
        let (x, r) ← statement fuel r
        (statements fuel r).map (x :: ·)

end ContractScan.Toml.Parser

namespace ContractScan.Toml

/-- The table that the document stands for. -/
def parse? (s : List Char) : Option Entries :=
  (Parser.statements (s.length + 2) (Text.withoutMark s)).bind ofStatements?

end ContractScan.Toml
