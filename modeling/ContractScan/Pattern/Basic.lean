import ContractScan.Pattern.CharClass

/-!
# Patterns

What a rule looks for, as data. Repetition is only of a single character class, so every pattern
ends its work on every text. The ways to match are ordered: of two alternatives the first is
preferred, and a run says whether its longest or its shortest form is. What a pattern may look
ahead for is a parameter: a plain pattern never looks ahead, and the patterns of rules look ahead
for plain ones.
-/

namespace ContractScan

/-- Which length of a run is preferred. -/
inductive Preference
  | longest
  | shortest
deriving DecidableEq, Repr

/-- A pattern over texts, where `τ` names what it may look ahead for. -/
inductive Pattern (τ : Type)
  /-- The empty text. -/
  | empty
  /-- One character of the class. -/
  | one (c : CharClass)
  /-- Any number of characters of the class. -/
  | run (first : Preference) (c : CharClass)
  /-- `p` and then `q`. -/
  | seq (p q : Pattern τ)
  /-- `p` or else `q`. -/
  | alt (p q : Pattern τ)
  /-- The empty text, where what is looked for does not follow. -/
  | notAhead (l : τ)
deriving DecidableEq, Repr

/-- A pattern that does not look ahead. -/
abbrev Plain := Pattern Empty

namespace Pattern

/-- The characters of a word one after the other, in either case. -/
def ofChars : List Char → Pattern τ
  | [] => .empty
  | c :: cs => .seq (.one (.like c)) (ofChars cs)

/-- One character, in either case. -/
def char (c : Char) : Pattern τ := .one (.like c)

/-- The word, in either case. -/
def text (s : String) : Pattern τ := ofChars s.toList

/-- All the patterns, one after the other. -/
def sequence : List (Pattern τ) → Pattern τ
  | [] => .empty
  | [p] => p
  | p :: ps => .seq p (sequence ps)

/-- One of the patterns, the first that leads to a match. -/
def oneOf (p : Pattern τ) : List (Pattern τ) → Pattern τ
  | [] => p
  | q :: qs => .alt p (oneOf q qs)

/-- One of the words. -/
def anyText (s : String) (more : List String) : Pattern τ :=
  oneOf (text s) (more.map text)

/-- The pattern, or else the empty text. -/
def optional (p : Pattern τ) : Pattern τ := .alt p .empty

/-- As many characters of the class as the rest allows. -/
def most (c : CharClass) : Pattern τ := .run .longest c

/-- As few characters of the class as the rest allows. -/
def fewest (c : CharClass) : Pattern τ := .run .shortest c

/-- At least one character of the class, as many as the rest allows. -/
def many (c : CharClass) : Pattern τ := .seq (.one c) (.run .longest c)

/-- Any white space. -/
def blanks : Pattern τ := most .blank

/-- As much of the line as the rest allows. -/
def line : Pattern τ := most .inLine

/-- Whether the pattern looks at text beyond what it takes. -/
def looksAhead : Pattern τ → Bool
  | .empty | .one _ | .run _ _ => false
  | .seq p q | .alt p q => p.looksAhead || q.looksAhead
  | .notAhead _ => true

/-- Whether the pattern may take texts of any length. -/
def hasRun : Pattern τ → Bool
  | .empty | .one _ | .notAhead _ => false
  | .run _ _ => true
  | .seq p q | .alt p q => p.hasRun || q.hasRun

/-- The pattern with other names for what it looks ahead for. -/
def map (f : τ → σ) : Pattern τ → Pattern σ
  | .empty => .empty
  | .one c => .one c
  | .run first c => .run first c
  | .seq p q => .seq (p.map f) (q.map f)
  | .alt p q => .alt (p.map f) (q.map f)
  | .notAhead l => .notAhead (f l)

theorem hasRun_map (f : τ → σ) (p : Pattern τ) : (p.map f).hasRun = p.hasRun := by
  induction p with
  | seq p q ihp ihq => simp [map, hasRun, ihp, ihq]
  | alt p q ihp ihq => simp [map, hasRun, ihp, ihq]
  | _ => rfl

end Pattern

end ContractScan
