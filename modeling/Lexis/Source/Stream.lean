import Lexis.Text.Position

/-!
# Character streams

A source delivers characters one read at a time. A read can also bring no data, which ends the
source for good, or fail, which ends only that read. A stream puts a buffer in front of a source, so
that characters can be looked at before they are consumed, and keeps the position after the last
consumed character.

Every operation leaves a stream behind, also when it fails: what was consumed stays consumed, and
what was looked at stays in the buffer.
-/

namespace Lexis

/-- Why a read failed. -/
inductive Fault
  | system | missingFile | badValue | endOfInput | internal
  deriving DecidableEq, Repr

/-- The faults of a source. The other two come from elsewhere and pass through a stream as they
are. -/
def Fault.isSourceFault : Fault → Bool
  | .system | .missingFile | .badValue => true
  | .endOfInput | .internal => false

/-- What one read of a source brings. -/
inductive Event
  | char (c : Char)
  | noData
  | failure (fault : Fault)
  deriving DecidableEq, Repr

/-- A failed read: the fault, and the position of the stream at that moment. -/
structure ReadFailure where
  fault : Fault
  position : Position
  deriving DecidableEq, Repr

/-- What is said about a source that could not be read. -/
def ReadFailure.message (f : ReadFailure) : String :=
  "failed to read source at offset " ++ toString f.position.offset

/-- A source with a buffer in front of it. Once the source is exhausted it is not read again. -/
structure Stream where
  pending : List Event
  buffer : List Char
  exhausted : Bool
  position : Position
  deriving DecidableEq, Repr

/-- An operation on a stream. -/
abbrev Reading := EStateM ReadFailure Stream

namespace Stream

/-- A fresh stream over a source that brings the given events and then no data. -/
def ofEvents (events : List Event) : Stream := ⟨events, [], false, Position.start⟩

/-- A fresh stream over a text. -/
def ofText (text : List Char) : Stream := ofEvents (text.map .char)

/-- A bound on the characters that can still be consumed. -/
def size (s : Stream) : Nat := s.buffer.length + s.pending.length

/-- The source has ended and the buffer is used up. An end that no read has met is not known. -/
def isEmpty (s : Stream) : Bool := s.exhausted && s.buffer.isEmpty

/-- Reads the source once. -/
def pull : Reading (Option Char) := fun s =>
  if s.exhausted then .ok none s
  else
    match s.pending with
    | [] => .ok none { s with exhausted := true }
    | .char c :: rest => .ok (some c) { s with pending := rest }
    | .noData :: rest => .ok none { s with pending := rest, exhausted := true }
    | .failure f :: rest => .error ⟨f, s.position⟩ { s with pending := rest }

/-- Counts `c` as consumed. -/
def pass (s : Stream) (c : Char) : Stream := { s with position := s.position.step c }

/-- Consumes one character, from the buffer or else from the source. -/
def next : Reading (Option Char) := fun s =>
  match s.buffer with
  | c :: rest => .ok (some c) ({ s with buffer := rest }.pass c)
  | [] =>
    match pull s with
    | .ok (some c) s' => .ok (some c) (s'.pass c)
    | .ok none s' => .ok none s'
    | .error e s' => .error e s'

/-- Consumes `n` characters. When there are fewer, they are consumed all the same. -/
def takeExactly : Nat → Reading (Option (List Char))
  | 0 => pure (some [])
  | n + 1 => do
    match ← next with
    | none => pure none
    | some c => return (← takeExactly n).map (c :: ·)

/-- Consumes `n` characters; none if there are fewer. A count below one consumes nothing. -/
def read (n : Int) : Reading (Option (List Char)) := takeExactly n.toNat

/-- Moves `n` characters from the source into the buffer, and says whether there were as many. -/
def fill : Nat → Reading Bool
  | 0 => pure true
  | n + 1 => do
    match ← pull with
    | none => pure false
    | some c =>
      modify fun s => { s with buffer := s.buffer ++ [c] }
      fill n

/-- The next `n` characters, which stay in the stream; none if there are fewer. -/
def peekExactly (n : Nat) : Reading (Option (List Char)) := do
  let filled ← fill (n - (← get).buffer.length)
  let s ← get
  return if filled then some (s.buffer.take n) else none

/-- The next `n` characters, which stay in the stream; none if there are fewer. A count below one
looks at nothing. -/
def lookAhead (n : Int) : Reading (Option (List Char)) := peekExactly n.toNat

/-- The next character, which stays in the stream. -/
def peek : Reading (Option Char) := return (← peekExactly 1).bind List.head?

end Stream

end Lexis
