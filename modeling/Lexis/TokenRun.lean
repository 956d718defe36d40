import Lexis.Text.Latin
import Lexis.Lexeme.Form

/-!
# Runs of tokens

A run lexes a stream up to its end or to the first failure. It keeps the tokens that were found,
each with the position of its first character, and what stopped it. Lexing a whole text asks for the
next token until there is none, without the positions; it finds the tokens of the run and succeeds
when nothing stops the run (`tokenize_eq_complete`).
-/

namespace Lexis

/-- The outcome of lexing a stream: the tokens with their starts, the failure that ended the run,
and the stream that is left. -/
structure TokenRun where
  tokens : List (Position × Token)
  failure : Option Failure
  rest : Stream
  deriving DecidableEq, Repr

namespace TokenRun

/-- The loop of `ofStream`. -/
def within : Nat → Stream → TokenRun
  | 0, s => ⟨[], none, s⟩
  | bound + 1, s =>
    match Scan.positioned? s with
    | .ok none s' => ⟨[], none, s'⟩
    | .ok (some t) s' =>
      let later := within bound s'
      { later with tokens := t :: later.tokens }
    | .error e s' => ⟨[], some e, s'⟩

/-- Lexes all of a stream. Each token takes at least one character, so the size of the stream bounds
the run. -/
def ofStream (s : Stream) : TokenRun := within (s.size + 1) s

/-- Lexes a text. -/
def ofText (text : List Char) : TokenRun := ofStream (Stream.ofText text)

/-- The tokens with their starts, if nothing stopped the run. -/
def positioned (r : TokenRun) : Except Failure (List (Position × Token)) :=
  match r.failure with
  | none => .ok r.tokens
  | some e => .error e

/-- The tokens, if nothing stopped the run. -/
def complete (r : TokenRun) : Except Failure (List Token) :=
  r.positioned.map (·.map (·.2))

end TokenRun

namespace Scan

/-- The loop of `tokens`. -/
def tokensWithin : Nat → Scan (List Token)
  | 0 => return []
  | bound + 1 => do
    match ← token? with
    | none => return []
    | some t => return t :: (← tokensWithin bound)

/-- Scans the next token again and again until there is none. -/
def tokens : Scan (List Token) := bounded tokensWithin

/-- The tokens of a run, scanned without their starts. -/
theorem tokensWithin_eq (bound : Nat) (s : Stream) :
    tokensWithin bound s =
      match (TokenRun.within bound s).failure with
      | none => .ok ((TokenRun.within bound s).tokens.map (·.2)) (TokenRun.within bound s).rest
      | some e => .error e (TokenRun.within bound s).rest := by
  induction bound generalizing s with
  | zero => rfl
  | succ bound ih =>
    rw [tokensWithin, token?_eq_map_positioned?, TokenRun.within]
    simp only [Bind.bind, EStateM.bind, Functor.map, EStateM.map]
    cases positioned? s with
    | error e s' => rfl
    | ok o s' =>
      cases o with
      | none => rfl
      | some t =>
        simp only [Option.map_some, EStateM.bind, ih]
        cases (TokenRun.within bound s').failure <;> rfl

end Scan

/-- Lexes a whole text. -/
def tokenize (text : List Char) : Except Failure (List Token) :=
  match Scan.tokens (Stream.ofText text) with
  | .ok ts _ => .ok ts
  | .error e _ => .error e

/-- **Asking for the next token until there is none** finds the tokens of the run over the text, and
fails where the run is stopped. -/
theorem tokenize_eq_complete (text : List Char) :
    tokenize text = (TokenRun.ofText text).complete := by
  rw [tokenize, Scan.tokens, Scan.bounded, Scan.tokensWithin_eq, TokenRun.ofText, TokenRun.ofStream,
    TokenRun.complete, TokenRun.positioned]
  cases (TokenRun.within _ (Stream.ofText text)).failure <;> rfl

end Lexis
