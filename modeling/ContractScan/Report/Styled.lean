/-!
# Styled text

Lines of pieces of text, each in a style. Without colours only the texts remain; with colours a
piece stands between the sequence that sets its style and the one that resets it, and its style is
set anew wherever the text itself holds a reset.
-/

namespace ContractScan.Report

/-- How a piece of text looks. -/
inductive Style
  | plain
  | bold
  | dimmed
  | red
  | green
  | yellow
  | blue
  | brightGreen
  | brightBlue
  | brightCyan
  /-- Bold and bright red. -/
  | alarm
  /-- Bold and bright white. -/
  | heading
deriving DecidableEq, Repr

/-- The codes that set the style. -/
def Style.codes : Style → String
  | .plain => ""
  | .bold => "1"
  | .dimmed => "2"
  | .red => "31"
  | .green => "32"
  | .yellow => "33"
  | .blue => "34"
  | .brightGreen => "92"
  | .brightBlue => "94"
  | .brightCyan => "96"
  | .alarm => "1;91"
  | .heading => "1;97"

/-- A terminal sequence with the given codes. -/
def sequence (codes : String) : List Char := '\x1b' :: '[' :: (codes.toList ++ ['m'])

/-- The text with `opening` after each reset. -/
def reopened (opening : List Char) : List Char → List Char
  | '\x1b' :: '[' :: '0' :: 'm' :: s =>
    '\x1b' :: '[' :: '0' :: 'm' :: (opening ++ reopened opening s)
  | c :: s => c :: reopened opening s
  | [] => []

/-- A piece of text in a style. -/
structure Piece where
  style : Style
  text : String
deriving DecidableEq, Repr

namespace Piece

/-- The piece as it is written, with colours or without. -/
def render (color : Bool) (p : Piece) : List Char :=
  if color && p.style != .plain then
    let opening := sequence p.style.codes
    opening ++ reopened opening p.text.toList ++ sequence "0"
  else p.text.toList

end Piece

/-- A plain piece. -/
def Piece.plain (s : String) : Piece := ⟨.plain, s⟩

/-- A bold piece. -/
def Piece.bold (s : String) : Piece := ⟨.bold, s⟩

/-- The text with blanks after it up to the width. -/
def padded (width : Nat) (s : String) : String :=
  s ++ String.ofList (List.replicate (width - s.length) ' ')

/-- A line of a report. -/
abbrev Line := List Piece

/-- The lines as they are written, each with its end. -/
def render (color : Bool) (lines : List Line) : String :=
  String.ofList (lines.flatMap fun l ↦ l.flatMap (Piece.render color) ++ ['\n'])

end ContractScan.Report
