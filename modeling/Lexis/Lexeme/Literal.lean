import Lexis.Lexeme.Scan
import Lexis.Token.Basic

/-!
# Strings and characters

A string runs to the next double quote; there are no escapes, and line ends belong to it. A dollar
sign may stand in front, and the text behind it is kept as it is. A character literal holds exactly
one character, which may be an apostrophe.
-/

namespace Lexis.Scan

/-- The loop of `quotedText`. -/
def quotedTextWithin : Nat → Scan (Option (List Char))
  | 0 => return none
  | bound + 1 => do
    match ← next with
    | none => return none
    | some c =>
      if c = '"' then return some []
      else return (← quotedTextWithin bound).map (c :: ·)

/-- Consumes the text up to the next double quote, and the quote. -/
def quotedText : Scan (Option (List Char)) := bounded quotedTextWithin

/-- Scans a string. -/
def string : Scan (Option Token) := do
  skip 1
  return (← quotedText).map fun t => .string (String.ofList t)

/-- Scans a string behind a dollar sign. -/
def interpolated : Scan (Option Token) := do
  skip 1
  if (← peek) = some '"' then string else return none

/-- Scans a character literal. -/
def charLiteral : Scan (Option Token) := do
  skip 1
  match ← next with
  | none => return none
  | some c => return if (← next) = some '\'' then some (.char c) else none

end Lexis.Scan
