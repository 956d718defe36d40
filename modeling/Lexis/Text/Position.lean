import Lexis.Text.CharClass

/-!
# Positions

A position counts the characters passed since an anchor, as row, column and offset. A line end does
not open the next row by itself: it raises a flag, and the character after it is the one that stands
on the new row, in column zero. The two halves of a CR LF pair each count as a line end.

The anchor may lie after the place that is counted, so the three numbers are integers.
-/

namespace Lexis

open CharClass

/-- A place in a text: zero-based row and column, the offset, and whether the last character passed
was a line end. -/
structure Position where
  row : Int
  column : Int
  offset : Int
  newlineStarted : Bool
  deriving DecidableEq, Repr

namespace Position

/-- The place before the first character. -/
def start : Position := ⟨0, 0, 0, false⟩

/-- The place after one more unit; `newline` says whether the unit ends a line. -/
def pass (p : Position) (newline : Bool) : Position :=
  if p.newlineStarted then ⟨p.row + 1, 0, p.offset + 1, newline⟩
  else ⟨p.row, p.column + 1, p.offset + 1, newline⟩

/-- A unit ends a line when it is a contiguous piece of LF CR, the empty piece included. -/
def isLineEndUnit (t : List Char) : Bool :=
  t = [] || t = ['\n'] || t = ['\r'] || t = ['\n', '\r']

/-- The place after the unit `t`, which counts as one offset whatever its length. -/
def update (p : Position) (t : List Char) : Position := p.pass (isLineEndUnit t)

/-- The place after the character `c`. -/
def step (p : Position) (c : Char) : Position := p.update [c]

/-- The place after every character of `t`. -/
def advance (p : Position) (t : List Char) : Position := t.foldl step p

/-- The position with its fields named. -/
def describe (p : Position) : String :=
  "Position(row=" ++ toString p.row ++ ", column=" ++ toString p.column ++ ", offset=" ++
    toString p.offset ++ ", newline_started=" ++ (if p.newlineStarted then "True" else "False") ++
    ")"

/-! ### One step at a time -/

@[simp] theorem advance_nil (p : Position) : p.advance [] = p := rfl

@[simp] theorem advance_cons (p : Position) (c : Char) (t : List Char) :
    p.advance (c :: t) = (p.step c).advance t := rfl

theorem advance_append (p : Position) (s t : List Char) :
    p.advance (s ++ t) = (p.advance s).advance t := by
  simp [advance, List.foldl_append]

theorem isLineEndUnit_singleton (c : Char) : isLineEndUnit [c] = isLineEnd c := by
  rw [Bool.eq_iff_iff]
  simp [isLineEndUnit, isLineEnd]

theorem step_eq_pass (p : Position) (c : Char) : p.step c = p.pass (isLineEnd c) := by
  rw [step, update, isLineEndUnit_singleton]

@[simp] theorem offset_step (p : Position) (c : Char) : (p.step c).offset = p.offset + 1 := by
  rw [step_eq_pass]; unfold pass; split <;> rfl

@[simp] theorem newlineStarted_step (p : Position) (c : Char) :
    (p.step c).newlineStarted = isLineEnd c := by
  rw [step_eq_pass]; unfold pass; split <;> rfl

theorem row_step (p : Position) (c : Char) : (p.step c).row = p.row + p.newlineStarted.toInt := by
  rw [step_eq_pass]; unfold pass; split <;> simp [*]

theorem column_step (p : Position) (c : Char) :
    (p.step c).column = if p.newlineStarted then 0 else p.column + 1 := by
  rw [step_eq_pass]; unfold pass; split <;> rfl

theorem offset_advance (p : Position) (t : List Char) :
    (p.advance t).offset = p.offset + t.length := by
  induction t generalizing p with
  | nil => simp
  | cons c t ih => simp [ih]; omega

end Position

end Lexis
