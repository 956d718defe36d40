import Lexis.Text.Lines
import Lexis.Text.Position
import Lexis.Token.Text

/-!
# Listings of tokens

A listing shows one token a line. The plain listing shows canonical texts, with the one-based
location in front on request, and may leave comments out. The dump shows every token with its
location and its offset, in columns, and quotes the payloads that can hold line ends.
-/

namespace Lexis.Listing

/-- The location where a token starts, given the text that it was lexed from. -/
def locationOf (source : List Char) (t : Position × Token) : Location :=
  Location.ofOffset source t.1.offset

/-- How a listing is laid out. -/
structure Layout where
  skipComments : Bool
  positions : Bool
  deriving DecidableEq, Repr

/-- The layout has a line for the token. -/
def Layout.keeps (l : Layout) (t : Token) : Bool := !(l.skipComments && t.kind == .comment)

/-- The line of a token, without its end. -/
def Layout.line (l : Layout) (source : List Char) (t : Position × Token) : String :=
  if l.positions then
    let here := locationOf source t
    toString here.line ++ ":" ++ toString here.column ++ "\t" ++ t.2.text
  else t.2.text

/-- The listing of the tokens that the layout keeps, each line ended by LF. -/
def render (l : Layout) (source : List Char) (ts : List (Position × Token)) : String :=
  String.join ((ts.filter (l.keeps ·.2)).map fun t => l.line source t ++ "\n")

/-- `s` with blanks in front up to `width` characters. -/
def padLeft (width : Nat) (s : String) : String :=
  String.ofList (List.replicate (width - s.length) ' ') ++ s

/-- `s` with blanks behind up to `width` characters. -/
def padRight (width : Nat) (s : String) : String :=
  s ++ String.ofList (List.replicate (width - s.length) ' ')

/-- The line of a token in a dump, without its end. -/
def dumpLine (source : List Char) (t : Position × Token) : String :=
  let here := locationOf source t
  padLeft 4 (toString here.line) ++ ":" ++ padRight 4 (toString here.column) ++ " @" ++
    padRight 6 (toString t.1.offset) ++ " " ++ t.2.debugText

/-- The dump of a list of tokens. -/
def dump (source : List Char) (ts : List (Position × Token)) : String :=
  String.join (ts.map fun t => dumpLine source t ++ "\n")

end Lexis.Listing
