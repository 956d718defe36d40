import Lexis.Token.Basic

/-!
# Equality of tokens

Two tokens are equal when their kinds agree and their payloads have the same value, where decimals
are compared by value and not by form. A token is always equal to itself, also when its payload is a
NaN, which equals no other payload. A signaling NaN refuses to be compared with another decimal and
cannot be a member of a set.
-/

namespace Lexis.Token

/-- What a signaling NaN refuses. -/
inductive Refusal
  | comparison
  | membership
  deriving DecidableEq, Repr

/-- The refusal in words. -/
def Refusal.message : Refusal → String
  | .comparison => "[<class 'decimal.InvalidOperation'>]"
  | .membership => "Cannot hash a signaling NaN value"

/-- The decimal that a token carries. -/
def decimal? : Token → Option Decimal
  | .number d | .version d => some d
  | _ => none

/-- The token carries a signaling NaN. -/
def isSignaling (t : Token) : Bool := t.decimal?.any (·.isSignaling)

/-- The payloads of two tokens of one kind have the same value. -/
def sameValue (a b : Token) : Bool :=
  match a.decimal?, b.decimal? with
  | some d, some e => d.sameValue e
  | _, _ => a == b

/-- Whether two different tokens are equal. -/
def equals? (a b : Token) : Except Refusal Bool :=
  if a.kind ≠ b.kind then .ok false
  else if a.isSignaling || b.isSignaling then .error .comparison
  else .ok (a.sameValue b)

/-- The answers for every pair of the given tokens, row by row. A token is compared by identity
first, so the diagonal is true. -/
def equalityTable (ts : List Token) : Except Refusal (List (List Bool)) :=
  ts.zipIdx.mapM fun (a, i) => ts.zipIdx.mapM fun (b, j) => if i = j then .ok true else equals? a b

/-- The tokens with those left out that equal an earlier one. -/
def distinct : List Token → List Token
  | [] => []
  | t :: rest => t :: (distinct rest).filter fun u => !(t.kind == u.kind && t.sameValue u)

/-- The number of members of the set of the given tokens. -/
def distinctCount (ts : List Token) : Except Refusal Nat :=
  if ts.any isSignaling then .error .membership else .ok (distinct ts).length

end Lexis.Token
