import ContractScan.Url.Percent

/-!
# Paths

The path of a URL is a row of segments, of which some stand for staying or going up. Drive letters
stand out: going up never takes one off, and at the beginning of a file path one is written with a
colon and takes the place of a host.
-/

namespace ContractScan.Url

/-- Schemes are treated in three ways. -/
inductive Kind
  | web
  | file
  | other
deriving DecidableEq, Repr

/-- The path of a URL: its segments, or a text without segments. -/
inductive Path
  | segments (parts : List (List Char))
  | plain (text : List Char)
deriving DecidableEq, Repr

/-- A character that separates segments in a URL of the given kind. -/
def isSlash (k : Kind) (c : Char) : Bool := c = '/' || (c = '\\' && k ≠ .other)

/-- A character that counts for nothing in a URL. -/
def isBreak (c : Char) : Bool := c = '\t' || c = '\n' || c = '\r'

/-- A segment that stands for going up. -/
def isDoubleDot (s : List Char) : Bool :=
  ["..", ".%2e", "%2e.", "%2e%2e"].contains (String.ofList (s.map Char.toLower))

/-- A segment that stands for staying. -/
def isSingleDot (s : List Char) : Bool :=
  [".", "%2e"].contains (String.ofList (s.map Char.toLower))

/-- A letter and a colon or bar. -/
def isDriveLetter : List Char → Bool
  | [c, d] => c.isAlpha && (d = ':' || d = '|')
  | _ => false

/-- A segment that going up does not take off. -/
def isFixed (s : List Char) : Bool :=
  isDriveLetter (s.take 2) && ((s.drop 2).isEmpty || (s.drop 2).head? = some '\\')

namespace Path

/-- A text in which only those characters that count for nothing are left that stand right after
what may be a drive letter, one of them each. -/
def keepBreaks (s : List Char) : List Char :=
  (s.foldl
    (fun read c ↦
      if isBreak c then
        match read with
        | ':' :: d :: _ => if d.isAlpha then '\n' :: read else read
        | _ => read
      else c :: read)
    []).reverse

/-- The text without characters that count for nothing. -/
def dropBreaks (s : List Char) : List Char := s.filter fun c ↦ !isBreak c

/-- What has been read of a path. -/
structure Trail where
  /-- The segments, the last one first. -/
  done : List (List Char) := []
  /-- A file path begins with a drive letter. -/
  drive : Bool := false

namespace Trail

/-- The trail after going up. -/
def up (t : Trail) : Trail :=
  match t.done with
  | d :: rest => if isFixed d then t else { t with done := rest }
  | [] => t

/-- The trail with a segment added. -/
def add (t : Trail) (s : List Char) : Trail := { t with done := s :: t.done }

/-- The trail after the first segment of a file path. What a break parts from a drive letter is a
segment of its own, and the drive letter then takes no place of a host. -/
def begin (t : Trail) (s : List Char) : Trail :=
  let text := dropBreaks s
  if isDriveLetter text then { t.add (text.take 1 ++ [':']) with drive := true }
  else
    match s with
    | c :: ':' :: '\n' :: rest =>
      (t.add [c, ':']).add (percentEncode pathSet (dropBreaks rest))
    | _ => t.add (percentEncode pathSet text)

/-- The trail after one segment of a path; the last one leaves an empty segment behind where it
stands for staying or going up. -/
def step (k : Kind) (last : Bool) (t : Trail) (s : List Char) : Trail :=
  let text := dropBreaks s
  let settled := fun t : Trail ↦ if last then t.add [] else t
  if isDoubleDot text then settled t.up
  else if isSingleDot text then settled t
  else if k = .file ∧ t.done.isEmpty then t.begin s
  else t.add (percentEncode pathSet text)

/-- The trail after all segments of a path. -/
def walk (k : Kind) (t : Trail) : List (List Char) → Trail
  | [] => t
  | s :: rest => walk k (t.step k rest.isEmpty s) rest

end Trail

/-- The segments without empty ones in front of others. -/
def withoutEmptyFront : List (List Char) → List (List Char)
  | [] :: s :: rest => withoutEmptyFront (s :: rest)
  | ss => ss

/-- The path of a URL whose authority is over, from its slash on, and whether it begins with a
drive letter that takes the place of a host. -/
def read (k : Kind) (s : List Char) : Path × Bool :=
  match s with
  | [] => (.segments (if k = .other then [] else [[]]), false)
  | c :: r =>
    let t := Trail.walk k {} ((if isSlash k c then r else c :: r).splitOnP (isSlash k))
    (.segments (if k = .file then withoutEmptyFront t.done.reverse else t.done.reverse), t.drive)

end Path

end ContractScan.Url
