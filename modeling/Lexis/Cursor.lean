import Lexis.TokenRun

/-!
# Token cursors

A cursor is a place in a finished list of tokens, for parsers that backtrack. Reading never changes a
cursor; it makes another one further along the same list. Reading and looking ahead answer only when
as many tokens remain as were asked for, and a count below one asks for none.
-/

namespace Lexis

/-- A place between two tokens of a list, or at one of its ends. -/
structure TokenCursor where
  tokens : List Token
  position : Nat
  position_le : position ≤ tokens.length
  deriving DecidableEq

/-- A position that is no place in the list. -/
structure CursorError where
  position : Int
  length : Nat
  deriving DecidableEq, Repr

/-- What is said about a position that is no place in the list. -/
def CursorError.message (e : CursorError) : String :=
  "cursor position " ++ toString e.position ++ " outside 0.." ++ toString e.length

namespace TokenCursor

/-- The cursor before the first token. -/
def start (ts : List Token) : TokenCursor := ⟨ts, 0, Nat.zero_le _⟩

/-- The cursor at a position, which has to lie in the list. -/
def at? (ts : List Token) (position : Int) : Except CursorError TokenCursor :=
  if h : 0 ≤ position ∧ position.toNat ≤ ts.length then .ok ⟨ts, position.toNat, h.2⟩
  else .error ⟨position, ts.length⟩

/-- The cursor before the first token of a text. -/
def ofText (text : List Char) : Except Failure TokenCursor := (tokenize text).map start

/-- The number of tokens ahead. -/
def remaining (c : TokenCursor) : Nat := c.tokens.length - c.position

/-- No token is ahead. -/
def atEnd (c : TokenCursor) : Bool := c.position == c.tokens.length

/-- The tokens ahead, `n` of them if there are as many. -/
def ahead (c : TokenCursor) (n : Nat) : List Token := (c.tokens.drop c.position).take n

/-- Reads `n` tokens: the cursor behind them, and the tokens; none if fewer remain. -/
def read (c : TokenCursor) (n : Int) : Option (TokenCursor × List Token) :=
  if h : c.position + n.toNat ≤ c.tokens.length then
    some (⟨c.tokens, c.position + n.toNat, h⟩, c.ahead n.toNat)
  else none

/-- The next `n` tokens; none if fewer remain. -/
def lookAhead (c : TokenCursor) (n : Int) : Option (List Token) :=
  if n.toNat ≤ c.remaining then some (c.ahead n.toNat) else none

/-- The next token. -/
def peek (c : TokenCursor) : Option Token := c.tokens[c.position]?

/-- A cursor shown with its position. -/
def describe (c : TokenCursor) : String := "TokenCursor(position=" ++ toString c.position ++ ")"

theorem length_ahead (c : TokenCursor) (n : Nat) : (c.ahead n).length = min n c.remaining := by
  simp [ahead, remaining]

end TokenCursor

end Lexis
