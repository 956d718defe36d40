import Lexis.Source.Stream
import Lexis.Diagnostic.Report

/-!
# Lexical errors

Lexing fails for three causes: a numeral with more than one point, a character that begins no
operator, and input that cannot supply a whole token. The first two are faults of the text; the third
may only mean that the text goes on.
-/

namespace Lexis

/-- Why the text at some place makes no token. -/
inductive Cause
  | malformedNumber (numeral : List Char)
  | unknownOperator (c : Char)
  | noToken
  deriving DecidableEq, Repr

/-- The cause in words. -/
def Cause.message : Cause → String
  | .malformedNumber ds => "malformed number literal '" ++ String.ofList ds ++ "'"
  | .unknownOperator c => "no operator starting with '" ++ String.singleton c ++ "' exists"
  | .noToken => "no token available"

/-- A cause and the position that it is about. -/
structure LexError where
  cause : Cause
  position : Position
  deriving DecidableEq, Repr

/-- The report on an error, with the source text if it is known. -/
def LexError.report (e : LexError) (source : Option (List Char)) : Report :=
  ⟨e.cause.message, e.position, source⟩

/-- Why lexing a stream stopped: the text, or the source of the stream. -/
inductive Failure
  | lexing (error : LexError)
  | reading (failure : ReadFailure)
  deriving DecidableEq, Repr

end Lexis
