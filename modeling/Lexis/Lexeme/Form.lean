import Lexis.Lexeme.Word
import Lexis.Lexeme.Number
import Lexis.Lexeme.Literal
import Lexis.Lexeme.Comment
import Lexis.Lexeme.Sign

/-!
# Forms of lexemes

The first character of a lexeme decides its form, together with the second one where the first
leaves two forms open: `v` before a digit opens a version and not a word, a sign before a digit opens
a number, and a slash may open a comment. Anything that has no form of its own is left to the
operators.
-/

namespace Lexis

open CharClass

/-- The form of a lexeme. -/
inductive Form
  | version | word | string | interpolated | charLiteral | number | blockComment | lineComment
  | sign
  deriving DecidableEq, Repr

namespace Form

/-- The first character leaves the form open. -/
def needsSecond (c : Char) : Bool := c == 'v' || isSign c || c == '/'

/-- The form of the lexeme that opens with `c` and goes on with `second`. -/
def ofChars (c : Char) (second : Option Char) : Form :=
  if c = 'v' && second.any isDigit then .version
  else if isWordStart c then .word
  else if c = '"' then .string
  else if c = '$' then .interpolated
  else if c = '\'' then .charLiteral
  else if isDigit c || (isSign c && second.any isDigit) then .number
  else if c = '/' && second = some '*' then .blockComment
  else if c = '/' && second = some '/' then .lineComment
  else .sign

end Form

namespace Scan

/-- The form of the lexeme ahead, which opens with `c`. -/
def form (c : Char) : Scan Form := do
  if Form.needsSecond c then return Form.ofChars c ((← peekPair).map (·.2))
  else return Form.ofChars c none

/-- Scans a lexeme of a known form that opens with `c`. -/
def lexemeOf (c : Char) : Form → Scan (Option Token)
  | .version => version
  | .word => some <$> word c
  | .string => string
  | .interpolated => interpolated
  | .charLiteral => charLiteral
  | .number => number
  | .blockComment => blockComment
  | .lineComment => some <$> lineComment
  | .sign => sign

/-- Scans one lexeme; none if the stream ends before it is whole. -/
def lexeme : Scan (Option Token) := do
  match ← peek with
  | none => return none
  | some c => lexemeOf c (← form c)

/-- Consumes the blanks ahead. -/
def skipBlanks : Scan Unit := discard (run isBlank)

/-- Whether anything follows the blanks ahead, which are consumed. -/
def hasNext : Scan Bool := do
  skipBlanks
  return !(← get).isEmpty

/-- Scans the next token behind the blanks ahead. -/
def token : Scan Token := do
  skipBlanks
  let start ← position
  match ← lexeme with
  | some t => return t
  | none => fail .noToken start

/-- Scans the next token, if anything follows the blanks ahead. -/
def token? : Scan (Option Token) := do
  if ← hasNext then return some (← token) else return none

/-- Scans the next token together with its start, if anything follows the blanks ahead. -/
def positioned? : Scan (Option (Position × Token)) := do
  if ← hasNext then
    let start ← position
    return some (start, ← token)
  else return none

/-- The next token is scanned alike with its start and without it, on any stream. -/
theorem token?_eq_map_positioned? : token? = Option.map (·.2) <$> positioned? := by
  simp only [token?, positioned?, map_bind]
  refine bind_congr fun more => ?_
  cases more
  · rfl
  · simp only [if_true, map_bind, map_pure]
    rfl

end Scan

end Lexis
