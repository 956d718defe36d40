import Lexis.Text.Position
import Lexis.Text.Lines

/-!
# Reports

A report is a message about a place in a source text. When the text is at hand, the place is found
by its offset in the text, which is right for every mixture of line ends, and the report shows the
line with a caret under the character. Without the text the place is read off the position.
-/

namespace Lexis

/-- A message about a position, with the source text if it is known. -/
structure Report where
  message : String
  position : Position
  source : Option (List Char)
  deriving DecidableEq, Repr

namespace Report

/-- The name that stands for a source file when none is given. -/
def defaultFileName : String := "input.sy"

/-- The one-based location of a position, without looking at the text. -/
def locationOfPosition (p : Position) : Location :=
  if p.newlineStarted then ⟨p.row + 2, 1⟩ else ⟨p.row + 1, p.column + 1⟩

/-- The one-based location that a report is about. -/
def location (r : Report) : Location :=
  match r.source with
  | some text => Location.ofOffset text r.position.offset
  | none => locationOfPosition r.position

/-- The text of line number `line`, or nothing if there is no such line. -/
def lineText (text : List Char) (line : Int) : List Char :=
  if line < 1 then [] else (Lines.ofText text).getD (line - 1).toNat []

/-- `n` blanks. -/
def blanks (n : Nat) : String := String.ofList (List.replicate n ' ')

/-- The source line with the caret under its column. -/
def excerpt (text : List Char) (here : Location) : String :=
  let number := toString here.line
  let gutter := blanks (number.length + 1) ++ "|"
  gutter ++ "\n" ++
    number ++ " | " ++ String.ofList (lineText text here.line) ++ "\n" ++
    gutter ++ " " ++ blanks (here.column - 1).toNat ++ "^"

/-- The report as it is shown to the reader of the file `fileName`. -/
def format (r : Report) (fileName : String) : String :=
  let here := r.location
  let head := "error: " ++ r.message ++ "\n" ++ blanks ((toString here.line).length + 1) ++ "--> " ++
    fileName ++ ":" ++ toString here.line ++ ":" ++ toString here.column
  match r.source with
  | none => head
  | some text => head ++ "\n" ++ excerpt text here

end Report

end Lexis
