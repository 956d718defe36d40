/-!
# UTF-8

Decoding walks over the bytes one character at a time. A sequence that is no character is refused
with the bytes at fault: a lead byte that opens nothing, the bytes before one that cannot follow
them, or a sequence cut off by the end of the data. The second byte is held to the range that its
lead byte leaves, which rules out overlong forms, surrogates and numbers past U+10FFFF.
-/

namespace Lexis.Utf8

/-- What is wrong with a sequence of bytes. -/
inductive Defect
  | invalidStart
  | invalidContinuation
  | truncated
  deriving DecidableEq, Repr

/-- A place where decoding stops: the offset, the first byte and how many bytes are at fault. -/
structure Malformed where
  offset : Nat
  first : UInt8
  count : Nat
  defect : Defect
  deriving DecidableEq, Repr

/-- A byte that may follow a lead byte. -/
def isContinuation (b : UInt8) : Bool := 0x80 ≤ b && b ≤ 0xBF

/-- The range of the second byte after the lead byte `a`. -/
def secondFits (a b : UInt8) : Bool :=
  if a = 0xE0 then 0xA0 ≤ b && b ≤ 0xBF
  else if a = 0xED then 0x80 ≤ b && b ≤ 0x9F
  else if a = 0xF0 then 0x90 ≤ b && b ≤ 0xBF
  else if a = 0xF4 then 0x80 ≤ b && b ≤ 0x8F
  else isContinuation b

/-- The length of the sequence that a lead byte opens. -/
def sequenceLength? (a : UInt8) : Option Nat :=
  if a < 0x80 then some 1
  else if 0xC2 ≤ a && a ≤ 0xDF then some 2
  else if 0xE0 ≤ a && a ≤ 0xEF then some 3
  else if 0xF0 ≤ a && a ≤ 0xF4 then some 4
  else none

/-- How many of the bytes after `a` can follow it, of at most `n`. -/
def followers (a : UInt8) (rest : List UInt8) (n : Nat) : Nat :=
  match rest with
  | [] => 0
  | b :: more =>
    if n = 0 || !secondFits a b then 0 else 1 + ((more.take (n - 1)).takeWhile isContinuation).length

/-- The number of a well-formed sequence of `n` bytes. -/
def scalar (a : UInt8) (tail : List UInt8) : Nat :=
  let lead := match tail.length with
    | 0 => a.toNat
    | 1 => a.toNat - 0xC0
    | 2 => a.toNat - 0xE0
    | _ => a.toNat - 0xF0
  tail.foldl (fun n b => n * 64 + (b.toNat - 0x80)) lead

/-- The characters from `offset` on; `skip` bytes of `rest` belong to the character before. -/
def decodeFrom (offset skip : Nat) : List UInt8 → Except Malformed (List Char)
  | [] => .ok []
  | a :: rest =>
    match skip with
    | k + 1 => decodeFrom (offset + 1) k rest
    | 0 =>
      match sequenceLength? a with
      | none => .error ⟨offset, a, 1, .invalidStart⟩
      | some n =>
        let found := followers a rest (n - 1)
        if found = n - 1 then
          (decodeFrom (offset + 1) found rest).map
            (Char.ofNat (scalar a (rest.take found)) :: ·)
        else if rest.length = found then .error ⟨offset, a, found + 1, .truncated⟩
        else .error ⟨offset, a, found + 1, .invalidContinuation⟩

/-- The characters that the bytes spell. -/
def decode (bytes : List UInt8) : Except Malformed (List Char) := decodeFrom 0 0 bytes

/-- The defect in words. -/
def Defect.message : Defect → String
  | .invalidStart => "invalid start byte"
  | .invalidContinuation => "invalid continuation byte"
  | .truncated => "unexpected end of data"

/-- What is said about bytes that cannot be decoded. -/
def Malformed.message (m : Malformed) : String :=
  (if m.count = 1 then
    "'utf-8' codec can't decode byte 0x" ++ String.ofList (Nat.toDigits 16 m.first.toNat) ++
      " in position " ++ toString m.offset
  else
    "'utf-8' codec can't decode bytes in position " ++ toString m.offset ++ "-" ++
      toString (m.offset + m.count - 1)) ++ ": " ++ m.defect.message

end Lexis.Utf8
