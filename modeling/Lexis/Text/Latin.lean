import Lexis.Text.Numbered

/-!
# Latin-1

A byte stands for the character of the same number, so a text has a byte form exactly when every
character of it is at most U+00FF. What has none is refused with the place of the first maximal run
of characters that are too large; a document that is only checked has each of them replaced.
-/

namespace Lexis.Latin

/-- The character has a byte. -/
def fits (c : Char) : Bool := c.toNat ≤ 0xFF

/-- The characters of a sequence of bytes. -/
def decode (bytes : List UInt8) : List Char := bytes.map fun b => Char.ofNat b.toNat

/-- The bytes of a text all of whose characters fit. -/
def bytes (t : List Char) : List UInt8 := t.map fun c => UInt8.ofNat c.toNat

/-- The text with a question mark for each character that has no byte. -/
def replaceOthers (t : List Char) : List Char := t.map fun c => if fits c then c else '?'

/-- The first maximal run of characters without a byte: its offset and the characters. -/
structure Misfit where
  offset : Nat
  first : Char
  others : List Char
  deriving DecidableEq, Repr

/-- The first maximal run of characters without a byte, if there is one. -/
def misfit? (t : List Char) : Option Misfit :=
  match t.dropWhile fits with
  | [] => none
  | c :: rest => some ⟨(t.takeWhile fits).length, c, rest.takeWhile (!fits ·)⟩

/-- The text itself when it has a byte form. -/
def check (t : List Char) : Except Misfit (List Char) :=
  match misfit? t with
  | some m => .error m
  | none => .ok t

/-- What is said about text that cannot be encoded. -/
def Misfit.message (m : Misfit) : String :=
  if m.others.isEmpty then
    "'latin-1' codec can't encode character '" ++ String.ofList (Numbered.form m.first) ++
      "' in position " ++ toString m.offset ++ ": ordinal not in range(256)"
  else
    "'latin-1' codec can't encode characters in position " ++ toString m.offset ++ "-" ++
      toString (m.offset + m.others.length) ++ ": ordinal not in range(256)"

end Lexis.Latin
