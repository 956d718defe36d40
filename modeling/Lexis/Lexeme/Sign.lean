import Lexis.Lexeme.Scan
import Lexis.Token.Basic

/-!
# Operators in the text

The longest operator is taken. The character after the first one is looked at only when the first
can begin an operator of two characters.
-/

namespace Lexis.Scan

/-- The operator of two characters that goes on with the next one, consumed if there is such an
operator. -/
def completion (c : Char) : Scan (Option Operator) := do
  match (← peek).bind (Operator.pair? c) with
  | none => return none
  | some o =>
    skip 1
    return some o

/-- Scans an operator. -/
def sign : Scan (Option Token) := do
  let start ← position
  match ← next with
  | none => return none
  | some c =>
    match Operator.single? c with
    | none => fail (.unknownOperator c) start
    | some short =>
      let long ← if Operator.opensPair c then completion c else pure none
      return some (.operator (long.getD short))

end Lexis.Scan
