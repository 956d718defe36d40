import Lexis.Text.Position
import Mathlib.Tactic.Common

/-! # Positions in closed form

A position is counted one character after the other, and a line end makes itself felt only in the
character behind it. So the last character of a text decides the flag of the position behind the
text and nothing else. The row is the number of the line ends in front of that character
(`Position.row_advance_concat`), and the column is counted from the last of them
(`Position.column_advance_concat`): from one if there is none, and else from zero
(`Position.advance_start_eq`). -/

namespace Lexis

open CharClass

namespace Position

/-- Each line end in front of the last character has opened a row. So has the line end that the
position itself stands behind. -/
theorem row_advance_concat (q : Position) (h : List Char) (c : Char) :
    (q.advance (h ++ [c])).row = q.row + q.newlineStarted.toInt + h.countP isLineEnd := by
  induction h generalizing q with
  | nil => simp [row_step]
  | cons d h ih =>
    rw [List.cons_append, advance_cons, ih, row_step, newlineStarted_step, List.countP_cons]
    cases isLineEnd d
    · simp
    · simp
      omega

/-- Without a line end in front of the last character, every character takes the next column. The
first one takes column zero if it opens a row. -/
theorem column_advance_concat (q : Position) {h : List Char}
    (hh : ∀ d ∈ h, isLineEnd d = false) (c : Char) :
    (q.advance (h ++ [c])).column =
      if q.newlineStarted then (h.length : Int) else q.column + (h.length + 1) := by
  induction h generalizing q with
  | nil => simp [column_step]
  | cons d h ih =>
    obtain ⟨hd, hrest⟩ := List.forall_mem_cons.1 hh
    rw [List.cons_append, advance_cons, ih _ hrest, newlineStarted_step, hd, column_step,
      List.length_cons]
    cases q.newlineStarted
    · simp
      omega
    · simp

/-- **The position behind a text.** The offset is the length of the text, and the flag tells whether
its last character is a LF or a CR. The row is the number of LFs and CRs in front of the last
character. If there is none, the column is the length of the text, and else it is this length less
the one-based index of the last of them, less one. -/
theorem advance_start_eq {t : List Char} (ht : t ≠ []) :
    (start.advance t).offset = t.length ∧
      ((start.advance t).newlineStarted = true ↔ t.getLast ht = '\n' ∨ t.getLast ht = '\r') ∧
      (start.advance t).row = t.dropLast.countP isLineEnd ∧
      ((∀ d ∈ t.dropLast, isLineEnd d = false) → (start.advance t).column = t.length) ∧
      ∀ front e back, t.dropLast = front ++ e :: back → isLineEnd e = true →
        (∀ d ∈ back, isLineEnd d = false) →
        (start.advance t).column = t.length - (front.length + 1) - 1 := by
  obtain ⟨h, c, rfl⟩ : ∃ h c, t = h ++ [c] :=
    ⟨_, _, (List.dropLast_concat_getLast ht).symm⟩
  rw [List.dropLast_concat, List.getLast_concat]
  have hlength : (h ++ [c]).length = h.length + 1 := List.length_append
  refine ⟨?_, ?_, ?_, fun hnone => ?_, fun front e back hh he hback => ?_⟩
  · simp [offset_advance, start]
  · rw [advance_append, advance_cons, advance_nil, newlineStarted_step]
    simp [isLineEnd]
  · rw [row_advance_concat]
    simp [start]
  · rw [column_advance_concat _ hnone]
    simp [start]
  · have hbehind : h ++ [c] = (front ++ [e]) ++ (back ++ [c]) := by simp [hh]
    have hflag : (start.advance (front ++ [e])).newlineStarted = true := by
      rw [advance_append, advance_cons, advance_nil, newlineStarted_step, he]
    have hbetween : h.length = front.length + (back.length + 1) := by simp [hh]
    rw [hlength, hbetween, hbehind, advance_append, column_advance_concat _ hback, if_pos hflag]
    omega

/-- Behind the second line end of a text with a CR LF pair, the last line end in front of which is
the LF of the pair. -/
theorem advance_start_eq_of_pair :
    let t := "a\r\nbc\n".toList
    let p := start.advance t
    ∃ ht : t ≠ [], (p.newlineStarted = true ↔ t.getLast ht = '\n' ∨ t.getLast ht = '\r') ∧
      p.row = t.dropLast.countP isLineEnd ∧ t.dropLast = ['a', '\r'] ++ '\n' :: ['b', 'c'] ∧
      p.column = t.length - (2 + 1) - 1 ∧ p = ⟨2, 2, 6, true⟩ := by
  intro t p
  have ht : t ≠ [] := by decide
  obtain ⟨-, hflag, hrow, -, hcolumn⟩ := advance_start_eq ht
  exact ⟨ht, hflag, hrow, by decide,
    hcolumn ['a', '\r'] '\n' ['b', 'c'] (by decide) (by decide) (by simp [isLineEnd]),
    by decide⟩

end Position

end Lexis
