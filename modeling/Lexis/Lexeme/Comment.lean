import Lexis.Lexeme.Scan
import Lexis.Token.Basic

/-!
# Comments

A line comment runs up to the next LF, which does not belong to it. A block comment may hold other
block comments, whose delimiters belong to its text. The delimiters are recognised from left to
right without overlap: after one of them has been consumed, neither of its characters can begin
another.
-/

namespace Lexis.Scan

/-- Scans a line comment. -/
def lineComment : Scan Token := do
  skip 2
  return .comment (String.ofList (← run (· != '\n')))

/-- The text of a block comment inside which `depth` others are open, up to its end, which is
consumed too. -/
def commentTextWithin : Nat → Nat → Scan (Option (List Char))
  | 0, _ => return none
  | bound + 1, depth => do
    match ← peekPair with
    | none => return none
    | some ('/', '*') =>
      skip 2
      return (← commentTextWithin bound (depth + 1)).map ('/' :: '*' :: ·)
    | some ('*', '/') =>
      skip 2
      match depth with
      | 0 => return some []
      | depth + 1 => return (← commentTextWithin bound depth).map ('*' :: '/' :: ·)
    | some (c, _) =>
      skip 1
      return (← commentTextWithin bound depth).map (c :: ·)

/-- Consumes the text of a block comment and its end. -/
def commentText : Scan (Option (List Char)) := bounded fun bound => commentTextWithin bound 0

/-- Scans a block comment. -/
def blockComment : Scan (Option Token) := do
  skip 2
  return (← commentText).map fun t => .comment (String.ofList t)

end Lexis.Scan
