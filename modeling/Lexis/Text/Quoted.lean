import Lexis.Text.Hidden
import Lexis.Text.Numbered

/-!
# Quoted text

The quoted form of a text stands on one line and shows every character. It is enclosed in
apostrophes, or in double quotes when the text holds an apostrophe and no double quote. The enclosing
mark and the backslash are written after a backslash, tab, LF and CR as `\t`, `\n` and `\r`, and any
other character that has no shape by its number.
-/

namespace Lexis.Quoted

/-- How `c` is written between two marks `mark`. -/
def escape (mark c : Char) : List Char :=
  if c = mark || c = '\\' then ['\\', c]
  else if c = '\t' then ['\\', 't']
  else if c = '\n' then ['\\', 'n']
  else if c = '\r' then ['\\', 'r']
  else if Hidden.isHidden c then Numbered.form c
  else [c]

/-- The mark that encloses `t`. -/
def markOf (t : List Char) : Char := if '\'' ∈ t ∧ '"' ∉ t then '"' else '\''

/-- The quoted form of a list of characters. -/
def encode (t : List Char) : List Char := markOf t :: (t.flatMap (escape (markOf t)) ++ [markOf t])

/-- The quoted form of a text. -/
def quote (s : String) : String := String.ofList (encode s.toList)

/-- The quoted forms of several texts, separated by a comma and a blank. -/
def quoteAll (ss : List String) : String := ", ".intercalate (ss.map quote)

/-- The parenthesised sequence of quoted texts; a single text keeps a comma after it. -/
def quoteSequence : List String → String
  | [s] => "(" ++ quote s ++ ",)"
  | ss => "(" ++ quoteAll ss ++ ")"

end Lexis.Quoted
