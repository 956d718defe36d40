import Lexis.TokenRun

/-!
# Lexing sessions

A session lexes one stream by requests of several kinds, in any order: whether a token follows, the
next token, all that remain, the next step of a walk that pairs tokens with their starts, and direct
requests to the stream. All of them share the stream, and each leaves a session behind, also when it
fails. A walk that has ended or failed is over: it answers nothing and touches nothing until a fresh
walk replaces it.
-/

namespace Lexis

/-- A stream being lexed, and whether the walk over its tokens has ended. -/
structure Session where
  stream : Stream
  walkOver : Bool
  deriving DecidableEq, Repr

/-- What a session can be asked. -/
inductive Request
  | hasNext
  | token
  | next
  | all
  | walk
  | freshWalk
  | read (n : Int)
  | lookAhead (n : Int)
  deriving DecidableEq, Repr

/-- What a session answers. -/
inductive Reply
  | flag (b : Bool)
  | token (t : Token)
  | token? (t : Option Token)
  | tokens (ts : List Token)
  | positioned (t : Option (Position × Token))
  | chars (cs : Option (List Char))
  | done
  deriving DecidableEq, Repr

namespace Session

/-- A fresh session on a stream. -/
def ofStream (s : Stream) : Session := ⟨s, false⟩

/-- Answers by a scan of the stream. -/
def answer {α : Type} (scan : Scan α) (reply : α → Reply) (s : Session) :
    Except Failure Reply × Session :=
  match scan s.stream with
  | .ok a rest => (.ok (reply a), { s with stream := rest })
  | .error e rest => (.error e, { s with stream := rest })

/-- Takes a step of the walk. -/
def stepWalk (s : Session) : Except Failure Reply × Session :=
  if s.walkOver then (.ok (.positioned none), s)
  else
    match Scan.positioned? s.stream with
    | .ok (some t) rest => (.ok (.positioned (some t)), ⟨rest, false⟩)
    | .ok none rest => (.ok (.positioned none), ⟨rest, true⟩)
    | .error e rest => (.error e, ⟨rest, true⟩)

/-- Answers one request. -/
def perform (s : Session) : Request → Except Failure Reply × Session
  | .hasNext => s.answer Scan.hasNext .flag
  | .token => s.answer Scan.token .token
  | .next => s.answer Scan.token? .token?
  | .all => s.answer Scan.tokens .tokens
  | .walk => s.stepWalk
  | .freshWalk => (.ok .done, { s with walkOver := false })
  | .read n => s.answer (Scan.ofReading (Stream.read n)) .chars
  | .lookAhead n => s.answer (Scan.ofReading (Stream.lookAhead n)) .chars

/-- Answers the requests in order; each finds the session that the one before it left. -/
def performAll (s : Session) : List Request → List (Except Failure Reply × Session)
  | [] => []
  | r :: rest =>
    let (reply, s') := s.perform r
    (reply, s') :: s'.performAll rest

end Session

end Lexis
