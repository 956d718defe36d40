import Lexis.Lexeme.Scan
import Lexis.Token.Basic

/-!
# Numbers and versions

A numeral is a digit followed by digits and points. It is read as a whole before its points are
counted, so a numeral with two points is one malformed numeral. A number is a numeral with an
optional sign, and a version is a numeral behind the letter `v`.
-/

namespace Lexis.Scan

open CharClass

/-- Scans a numeral. The first character belongs to it whatever it is. -/
def numeral : Scan (Option Decimal) := do
  let start ← position
  match ← next with
  | none => return none
  | some c =>
    let text := c :: (← run isNumeralPart)
    match Decimal.ofNumeral? text with
    | some d => return some d
    | none => fail (.malformedNumber text) start

/-- A decimal with the sign that was written; zero has none. -/
def signed (sign : Option Char) (d : Decimal) : Decimal :=
  if sign = some '-' && !d.isZero then d.negate else d

/-- Scans a number. -/
def number : Scan (Option Token) := do
  let first ← peek
  let sign := first.filter isSign
  if sign.isSome then skip 1
  return (← numeral).map fun d => .number (signed sign d)

/-- Scans a version. -/
def version : Scan (Option Token) := do
  skip 1
  return (← numeral).map .version

end Lexis.Scan
