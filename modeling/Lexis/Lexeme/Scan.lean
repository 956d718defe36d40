import Lexis.Diagnostic.LexError

/-!
# Scanning

A scan is an operation on a stream that may stop with a failure. The forms of lexemes are scans built
from a handful of steps: look at the next character or at the one after it, consume one, and consume
a run of a class. A loop is bounded by the characters that the stream can still deliver, which no
loop can exhaust, since each round consumes at least one.
-/

namespace Lexis

/-- A scan of a stream. -/
abbrev Scan := EStateM Failure Stream

namespace Scan

/-- A reading step of a scan. -/
def ofReading {α : Type} (r : Reading α) : Scan α := EStateM.adaptExcept .reading r

/-- Stops with a lexical error. -/
def fail {α : Type} (cause : Cause) (p : Position) : Scan α := throw (.lexing ⟨cause, p⟩)

/-- The position of the stream. -/
def position : Scan Position := return (← get).position

/-- The next character, not consumed. -/
def peek : Scan (Option Char) := ofReading Stream.peek

/-- The next two characters, not consumed; none if there are fewer. -/
def peekPair : Scan (Option (Char × Char)) := do
  match ← ofReading (Stream.peekExactly 2) with
  | some [c, d] => return some (c, d)
  | _ => return none

/-- Consumes one character. -/
def next : Scan (Option Char) := ofReading Stream.next

/-- Consumes `n` characters that have been looked at. -/
def skip (n : Nat) : Scan Unit := discard (ofReading (Stream.takeExactly n))

/-- Runs a loop with a bound that it cannot reach. -/
def bounded {α : Type} (loop : Nat → Scan α) : Scan α := fun s => loop (s.size + 1) s

/-- The loop of `run`. -/
def runWithin (p : Char → Bool) : Nat → Scan (List Char)
  | 0 => return []
  | bound + 1 => do
    match ← peek with
    | none => return []
    | some c =>
      if p c then
        skip 1
        return c :: (← runWithin p bound)
      else return []

/-- Consumes the longest run of characters of the class `p`. -/
def run (p : Char → Bool) : Scan (List Char) := bounded (runWithin p)

end Scan

end Lexis
