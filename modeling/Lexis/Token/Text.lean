import Lexis.Token.Basic

/-!
# The text of tokens

The canonical text of a token is the name of its kind, followed for the kinds with a payload by a
colon, a blank and the payload as it is. The debugging text quotes the payloads that can hold
blanks and line ends, so that it always stands on one line.
-/

namespace Lexis.Token

/-- The payload of a token as it is written in the canonical text. -/
def payloadText? : Token → Option String
  | .boolean b => some (if b then "true" else "false")
  | .char c => some (String.singleton c)
  | .comment s | .identifier s | .interpolated s | .string s => some s
  | .number d | .version d => some d.text
  | .keyword _ | .operator _ => none

/-- The canonical text of a token. -/
def text (t : Token) : String :=
  match t.payloadText? with
  | none => t.kind.name
  | some p => t.kind.name ++ ": " ++ p

/-- The text to quote in the debugging text, for the kinds whose payload can hold any character. -/
def quotable? : Token → Option String
  | .char c => some (String.singleton c)
  | .comment s | .interpolated s | .string s => some s
  | _ => none

/-- The debugging text of a token. -/
def debugText (t : Token) : String :=
  match t.quotable? with
  | some s => t.kind.name ++ "(" ++ Quoted.quote s ++ ")"
  | none => t.text

/-- A token with its fields named. -/
def describe (t : Token) : String :=
  "Token(kind=" ++ t.kind.describe ++ ", value=" ++ t.payload.describe ++ ")"

end Lexis.Token
