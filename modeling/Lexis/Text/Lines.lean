import Lexis.Text.CharClass

/-!
# Lines

Lines end at CR LF, at a lone CR and at LF. `Lines.ofText` cuts a text into its lines, and
`Location.ofOffset` finds the one-based line and column of an offset. The location looks only at the
characters before the offset, so between the CR and the LF of a pair the CR alone has ended a line.
-/

namespace Lexis

open CharClass

namespace Lines

/-- The lines of a text, without their ends. There is always at least one. -/
def ofText : List Char → List (List Char)
  | [] => [[]]
  | '\r' :: '\n' :: rest => [] :: ofText rest
  | c :: rest => if isLineEnd c then [] :: ofText rest else (ofText rest).modifyHead (c :: ·)

theorem ofText_ne_nil (t : List Char) : ofText t ≠ [] := by
  fun_induction ofText t with
  | case1 => simp
  | case2 => simp
  | case3 => simp
  | case4 c rest _ _ ih =>
    cases h : ofText rest with
    | nil => exact absurd h ih
    | cons _ _ => simp

end Lines

/-- A one-based line and column. The column is an integer, because an offset may be negative. -/
structure Location where
  line : Int
  column : Int
  deriving DecidableEq, Repr

namespace Location

/-- The location reached from `here` after `n` characters of the text, or at its end. -/
def walk (here : Location) : List Char → Nat → Location
  | _, 0 => here
  | [], _ => here
  | '\r' :: '\n' :: rest, n + 2 => walk ⟨here.line + 1, 1⟩ rest n
  | c :: rest, n + 1 =>
    if isLineEnd c then walk ⟨here.line + 1, 1⟩ rest n
    else walk ⟨here.line, here.column + 1⟩ rest n

/-- The location of the character at `offset`. An offset past the end stands for the end, and one
before the start lies on the first line. -/
def ofOffset (source : List Char) (offset : Int) : Location :=
  if offset < 0 then ⟨1, offset + 1⟩ else walk ⟨1, 1⟩ source offset.toNat

end Location

end Lexis
