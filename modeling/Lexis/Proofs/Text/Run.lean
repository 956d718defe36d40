import Lexis.Text.CharClass
import Mathlib.Data.List.TakeWhile

/-! # Runs of a class of characters

The run of a class at the front of a text ends at the end of the text or at a character outside the
class. A text is cut into a run and the rest in one way only (`takeWhile_dropWhile_iff`). -/

namespace Lexis.Run

variable {p : Char → Bool} {t w rest : List Char}

/-- The text goes on with no character of the class. -/
def EndsBefore (p : Char → Bool) (rest : List Char) : Prop := ∀ c ∈ rest.head?, p c = false

theorem endsBefore_nil : EndsBefore p [] := by
  intro c hc
  cases hc

theorem endsBefore_cons {c : Char} : EndsBefore p (c :: rest) ↔ p c = false := by
  simp [EndsBefore]

theorem endsBefore_dropWhile (p : Char → Bool) (t : List Char) : EndsBefore p (t.dropWhile p) := by
  intro c hc
  have h := List.head?_dropWhile_not p t
  rw [Option.mem_def.1 hc] at h
  exact h

theorem takeWhile_append (hw : ∀ c ∈ w, p c = true) (hr : EndsBefore p rest) :
    (w ++ rest).takeWhile p = w := by
  rw [List.takeWhile_append_of_pos hw]
  cases rest with
  | nil => simp
  | cons c rest => simp [endsBefore_cons.1 hr]

theorem dropWhile_append (hw : ∀ c ∈ w, p c = true) (hr : EndsBefore p rest) :
    (w ++ rest).dropWhile p = rest := by
  rw [List.dropWhile_append_of_pos hw]
  cases rest with
  | nil => rfl
  | cons c rest => simp [endsBefore_cons.1 hr]

/-- **The cut into a run and the rest is unique.** -/
theorem takeWhile_dropWhile_iff :
    t.takeWhile p = w ∧ t.dropWhile p = rest ↔
      t = w ++ rest ∧ (∀ c ∈ w, p c = true) ∧ EndsBefore p rest := by
  constructor
  · rintro ⟨rfl, rfl⟩
    exact ⟨List.takeWhile_append_dropWhile.symm, fun c hc => List.mem_takeWhile_imp hc,
      endsBefore_dropWhile p t⟩
  · rintro ⟨rfl, hw, hr⟩
    exact ⟨takeWhile_append hw hr, dropWhile_append hw hr⟩

/-- Two runs with what follows them are equal part by part. -/
theorem eq_of_append_eq {w' rest' : List Char} (hw : ∀ c ∈ w, p c = true)
    (hw' : ∀ c ∈ w', p c = true) (hr : EndsBefore p rest) (hr' : EndsBefore p rest')
    (h : w ++ rest = w' ++ rest') : w = w' ∧ rest = rest' := by
  obtain ⟨htake, hdrop⟩ := takeWhile_dropWhile_iff.2 ⟨rfl, hw, hr⟩
  obtain ⟨htake', hdrop'⟩ := takeWhile_dropWhile_iff.2 ⟨h, hw', hr'⟩
  exact ⟨htake.symm.trans htake', hdrop.symm.trans hdrop'⟩

end Lexis.Run
