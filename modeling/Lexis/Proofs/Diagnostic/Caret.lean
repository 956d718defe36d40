import Lexis.Diagnostic.Report
import Lexis.Proofs.Text.Lines

/-! # The caret points at the character

A report that knows the source ends with four lines (`toList_format`): the place of the character,
an empty gutter, the source line behind its number, and the caret behind an empty gutter. A message
or a file name may hold line feeds, which make more lines further up; these four hold none
(`exists_splitOn_format`).

The margin with the number and the empty gutter follow rules of their own, but they are equally wide
for any number of digits (`length_lead`). So the caret stands under the character, whose line the
location has found by counting and the excerpt by cutting (`caret_points_at_character`). -/

namespace Lexis

open CharClass

/-! ### Cutting a list at a separator -/

section Cut
variable {α : Type} {a : α} {l back : List α}

/-- What holds no separator lies in the last piece, whatever is in front of it. -/
theorem exists_splitOn_append [DecidableEq α] (front : List α) (hback : a ∉ back) :
    ∃ pieces last, (front ++ back).splitOn a = pieces ++ [last ++ back] := by
  induction front with
  | nil => exact ⟨[], [], List.splitOn_eq_singleton hback⟩
  | cons x front ih =>
    obtain ⟨pieces, last, ih⟩ := ih
    rw [List.cons_append, List.splitOn_cons_eq_if_modifyHead, ih]
    split
    · exact ⟨[] :: pieces, last, rfl⟩
    · cases pieces with
      | nil => exact ⟨[], x :: last, rfl⟩
      | cons piece pieces => exact ⟨(x :: piece) :: pieces, last, rfl⟩

/-- The last element stands at no other index if the others are different from it. -/
theorem getElem?_concat_eq_some_iff (h : a ∉ l) (j : Nat) :
    (l ++ [a])[j]? = some a ↔ j = l.length := by
  constructor
  · intro hj
    rcases Nat.lt_or_ge j l.length with hlt | hge
    · rw [List.getElem?_append_left hlt] at hj
      exact absurd (List.mem_of_getElem? hj) h
    · obtain ⟨hlt, -⟩ := List.getElem?_eq_some_iff.1 hj
      rw [List.length_append, List.length_singleton] at hlt
      omega
  · rintro rfl
    exact List.getElem?_concat_length

end Cut

theorem not_mem_toList_toString {c : Char} (hc : c.isDigit = false) (n : Nat) :
    c ∉ (toString n).toList := by
  intro hmem
  have hdigit : c.isDigit = true :=
    Nat.isDigit_of_mem_toDigits (by decide) (by decide) (Nat.toList_repr ▸ hmem)
  rw [hc] at hdigit
  cases hdigit

namespace Report

/-! ### The lines of a report -/

/-- The end of the line that names the place. -/
def place (line column : Nat) : List Char := (":" ++ toString line ++ ":" ++ toString column).toList

/-- The gutter of a line without a number. -/
def gutter (line : Nat) : List Char :=
  List.replicate ((toString line).length + 1) ' ' ++ ['|']

/-- The number of the line, and what stands between it and the text. -/
def margin (line : Nat) : List Char := (toString line ++ " | ").toList

/-- What stands in front of the caret. -/
def lead (line column : Nat) : List Char := gutter line ++ ' ' :: List.replicate (column - 1) ' '

theorem not_mem_place (line column : Nat) : '\n' ∉ place line column := by
  simp [place, not_mem_toList_toString, -Nat.toString_eq_repr]

theorem not_mem_gutter {c : Char} (hblank : c ≠ ' ') (hbar : c ≠ '|') (line : Nat) :
    c ∉ gutter line := by
  simp [gutter, hblank, hbar]

theorem not_mem_margin (line : Nat) : '\n' ∉ margin line := by
  simp [margin, not_mem_toList_toString, -Nat.toString_eq_repr]

theorem not_mem_lead {c : Char} (hblank : c ≠ ' ') (hbar : c ≠ '|') (line column : Nat) :
    c ∉ lead line column := by
  simp [lead, not_mem_gutter hblank hbar, hblank]

/-- **The margin and the empty gutter are equally wide** for every line number, so the caret has the
margin and the columns before the character in front of it. -/
theorem length_lead (line column : Nat) :
    (lead line column).length = (margin line).length + (column - 1) := by
  have hmargin : (margin line).length = (toString line).length + 3 := by
    rw [margin, String.length_toList, String.length_append]
    rfl
  simp only [hmargin, lead, gutter, List.length_append, List.length_cons, List.length_nil,
    List.length_replicate]
  omega

variable {source shown : List Char} {position : Position} {line column : Nat}

/-- A report that is about a line of the source, in full. -/
theorem toList_format (message fileName : String)
    (hhere : Location.ofOffset source position.offset = ⟨line, column⟩)
    (hshown : lineText source line = shown) :
    ((⟨message, position, some source⟩ : Report).format fileName).toList =
      ("error: " ++ message ++ "\n" ++ blanks ((toString line).length + 1) ++ "--> " ++
          fileName).toList ++ place line column ++ '\n' ::
        (gutter line ++ '\n' :: (margin line ++ shown ++ '\n' :: (lead line column ++ ['^']))) := by
  have hcast : ∀ n : Nat, toString (n : Int) = toString n := fun _ => rfl
  subst hshown
  simp [format, location, excerpt, hhere, hcast, place, gutter, margin, lead, blanks,
    -Int.toString_eq_repr, -Nat.toString_eq_repr]

/-- The last four lines of the report. -/
theorem exists_splitOn_format (message fileName : String)
    (hhere : Location.ofOffset source position.offset = ⟨line, column⟩)
    (hshown : lineText source line = shown) (hline : '\n' ∉ shown) :
    ∃ front before,
      ((⟨message, position, some source⟩ : Report).format fileName).toList.splitOn '\n' =
        front ++ [before ++ place line column, gutter line, margin line ++ shown,
          lead line column ++ ['^']] := by
  have hnumbered : '\n' ∉ margin line ++ shown := by simp [not_mem_margin, hline]
  have hcaret : '\n' ∉ lead line column ++ ['^'] := by
    simp [not_mem_lead (show '\n' ≠ ' ' by decide) (show '\n' ≠ '|' by decide)]
  obtain ⟨front, before, hplace⟩ := exists_splitOn_append
    ("error: " ++ message ++ "\n" ++ blanks ((toString line).length + 1) ++ "--> " ++
      fileName).toList (not_mem_place line column)
  refine ⟨front, before, ?_⟩
  rw [toList_format message fileName hhere hshown, List.splitOn_append_cons_self, hplace,
    List.splitOn_append_cons_self_of_not_mem (not_mem_gutter (by decide) (by decide) line),
    List.splitOn_append_cons_self_of_not_mem hnumbered, List.splitOn_eq_singleton hcaret,
    List.append_assoc]
  rfl

/-! ### The caret -/

/-- **The caret points at the character.** Let the source have the character `c`, no line end, at
the offset of the position. Then the report ends with the place, an empty gutter, the whole line of the
source behind a margin, and the caret. The caret stands once in its line, at the index `i` at which
the line before it has `c`, and `c` stands in the source in the line and the column that the place
names, both counted from one. -/
theorem caret_points_at_character (message fileName : String) (source : List Char)
    (position : Position) (o : Nat) (c : Char) (hposition : position.offset = o)
    (hc : source[o]? = some c) (hend : isLineEnd c = false) :
    ∃ (front : List (List Char)) (before bar margin shown pointer : List Char)
      (line column i : Nat),
      ((⟨message, position, some source⟩ : Report).format fileName).toList.splitOn '\n' =
        front ++ [before ++ (":" ++ toString line ++ ":" ++ toString column).toList, bar,
          margin ++ shown, pointer] ∧
      (∀ j, pointer[j]? = some '^' ↔ j = i) ∧ (margin ++ shown)[i]? = some c ∧
      1 ≤ line ∧ 1 ≤ column ∧
      (Lines.ofText source)[line - 1]? = some shown ∧ shown[column - 1]? = some c := by
  obtain ⟨l, k, ⟨shown, hl, hk⟩, hhere⟩ := Location.ofOffset_of_getElem? hc hend
  rw [← hposition] at hhere
  have hline : '\n' ∉ shown := by
    intro hmem
    cases Lines.isLineEnd_eq_false_of_mem shown (List.mem_of_getElem? hl) '\n' hmem
  have hshown : lineText source ((l + 1 : Nat) : Int) = shown := by
    rw [lineText, if_neg (by omega)]
    simp [List.getD_eq_getElem?_getD, hl]
  obtain ⟨front, before, hformat⟩ := exists_splitOn_format message fileName hhere hshown hline
  refine ⟨front, before, gutter (l + 1), margin (l + 1), shown, lead (l + 1) (k + 1) ++ ['^'],
    l + 1, k + 1, (margin (l + 1)).length + k, hformat, ?_, ?_, Nat.le_add_left ..,
    Nat.le_add_left .., hl, hk⟩
  · intro j
    rw [getElem?_concat_eq_some_iff (not_mem_lead (by decide) (by decide) _ _), length_lead]
    rfl
  · rw [List.getElem?_append_right (Nat.le_add_right ..), Nat.add_sub_cancel_left]
    exact hk

/-- The tenth line of a source with line ends of all three kinds. -/
theorem caret_points_at_character_of_mixed_line_ends :
    let source := "\r\n\r\r\n\n\n\r\n\n\r\r\nab @\rc".toList
    let position := Position.start.advance (source.take 16)
    let report : Report := ⟨"no operator starting with '@' exists", position, some source⟩
    report.format "main.sy" =
        "error: no operator starting with '@' exists\n   --> main.sy:10:4\n" ++
          "   |\n10 | ab @\n   |    ^" ∧
      position.offset = (16 : Nat) ∧ source[16]? = some '@' ∧ isLineEnd '@' = false ∧
      ∃ (front : List (List Char)) (before bar margin shown pointer : List Char)
        (line column i : Nat),
        (report.format "main.sy").toList.splitOn '\n' =
          front ++ [before ++ (":" ++ toString line ++ ":" ++ toString column).toList, bar,
            margin ++ shown, pointer] ∧
        (∀ j, pointer[j]? = some '^' ↔ j = i) ∧ (margin ++ shown)[i]? = some '@' ∧
        1 ≤ line ∧ 1 ≤ column ∧
        (Lines.ofText source)[line - 1]? = some shown ∧ shown[column - 1]? = some '@' :=
  ⟨by decide +kernel, by decide, by decide, by decide,
    caret_points_at_character "no operator starting with '@' exists" "main.sy" _ _ 16 '@'
      (by decide) (by decide) (by decide)⟩

end Report

end Lexis
