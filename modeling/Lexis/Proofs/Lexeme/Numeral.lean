import Lexis.Proofs.Lexeme.Form
import Lexis.Proofs.Text.Run

/-! # Numerals

A text of digits and points that opens with a digit is a numeral exactly when it has at most one
point, and its value is then the one that the grammar gives it. So the scan of a numeral, which takes
all digits and points that are ahead, finds the numeral that ends where they do
(`numeral_eq_found_of_numeral`), or fails because of a second point (`numeral_eq_failed_iff`). -/

namespace Lexis

open CharClass Run

/-! ### Reading a numeral -/

theorem Numeral.all_isNumeralPart {u : List Char} {d : Decimal} (h : Numeral u d) :
    ∀ c ∈ u, isNumeralPart c = true := by
  intro c hc
  cases h with
  | whole _ hds => exact isNumeralPart_of_isDigit (hds c hc)
  | fractional _ hds hes =>
    rcases List.mem_append.1 hc with hc | hc
    · exact isNumeralPart_of_isDigit (hds c hc)
    · rcases List.mem_cons.1 hc with rfl | hc
      · rfl
      · exact isNumeralPart_of_isDigit (hes c hc)

theorem Numeral.exists_cons {u : List Char} {d : Decimal} (h : Numeral u d) :
    ∃ c rest, u = c :: rest ∧ isDigit c = true := by
  cases h with
  | whole hne hds =>
    obtain ⟨c, rest, rfl⟩ := List.exists_cons_of_ne_nil hne
    exact ⟨c, rest, rfl, hds c (by simp)⟩
  | @fractional ds es hne hds hes =>
    obtain ⟨c, rest, rfl⟩ := List.exists_cons_of_ne_nil hne
    exact ⟨c, rest ++ '.' :: es, rfl, hds c (by simp)⟩

/-- The digit that opens a numeral is seen from in front of it. -/
theorem Numeral.any_isDigit_append {u : List Char} {d : Decimal} (hu : Numeral u d)
    (rest : List Char) : (u ++ rest).head?.any isDigit = true := by
  obtain ⟨c, w, rfl, hc⟩ := hu.exists_cons
  simpa using hc

theorem Numeral.any_isDigit {u : List Char} {d : Decimal} (hu : Numeral u d) :
    u.head?.any isDigit = true := by
  have h := hu.any_isDigit_append []
  rwa [List.append_nil] at h

/-- Every numeral of the grammar is read, with the value that the grammar gives it. -/
theorem Numeral.ofNumeral?_eq {u : List Char} {d : Decimal} (h : Numeral u d) :
    Decimal.ofNumeral? u = some d := by
  cases h with
  | whole hne hds =>
    have hdrop : u.dropWhile isDigit = [] := List.dropWhile_eq_nil_iff.2 hds
    simp [Decimal.ofNumeral?, hdrop, Decimal.ofParts?, hne]
  | @fractional ds es hne hds hes =>
    have hpoint : EndsBefore isDigit ('.' :: es) := endsBefore_cons.2 rfl
    have hall : es.all isDigit = true := List.all_eq_true.2 hes
    simp [Decimal.ofNumeral?, dropWhile_append hds hpoint, takeWhile_append hds hpoint, hall,
      Decimal.ofParts?, hne]

theorem count_point_of_digits {ds : List Char} (h : ∀ c ∈ ds, isDigit c = true) :
    ds.count '.' = 0 := by
  refine List.count_eq_zero.2 fun hmem => ?_
  exact absurd (h '.' hmem) (by decide)

theorem Numeral.count_lt {u : List Char} {d : Decimal} (h : Numeral u d) : u.count '.' < 2 := by
  cases h with
  | whole _ hds => rw [count_point_of_digits hds]; omega
  | fractional _ hds hes =>
    rw [List.count_append, List.count_cons_self, count_point_of_digits hds,
      count_point_of_digits hes]
    omega

section Cut
variable {c : Char} {w : List Char} (hc : isDigit c = true)
include hc

/-- A text that opens with a digit is cut into its first digits and the rest. -/
theorem exists_digits : ∃ ds, ds ≠ [] ∧ (∀ x ∈ ds, isDigit x = true) ∧
    c :: w = ds ++ w.dropWhile isDigit ∧ (c :: w).takeWhile isDigit = ds ∧
      (c :: w).dropWhile isDigit = w.dropWhile isDigit := by
  refine ⟨c :: w.takeWhile isDigit, by simp, fun x hx => ?_, by simp, by simp [hc], by simp [hc]⟩
  rcases List.mem_cons.1 hx with rfl | hx
  · exact hc
  · exact List.mem_takeWhile_imp hx

/-- What is read behind a first digit is a numeral of the grammar. -/
theorem numeral_of_ofNumeral?_eq {d : Decimal} (h : Decimal.ofNumeral? (c :: w) = some d) :
    Numeral (c :: w) d := by
  obtain ⟨ds, hne, hds, hsplit, htake, hdrop⟩ := exists_digits (w := w) hc
  rw [Decimal.ofNumeral?, htake, hdrop] at h
  rw [hsplit]
  cases hrest : w.dropWhile isDigit with
  | nil =>
    rw [hrest, List.append_nil] at hsplit
    rw [hrest, hsplit] at h
    simp only [Decimal.ofParts?, List.isEmpty_nil, Bool.and_true, List.isEmpty_iff, hne, if_false,
      Option.some.injEq] at h
    rw [← h, List.append_nil]
    exact .whole hne hds
  | cons x es =>
    simp only [hrest] at h
    split_ifs at h with hx
    simp only [Bool.and_eq_true, decide_eq_true_eq, List.all_eq_true] at hx
    obtain ⟨rfl, hes⟩ := hx
    simp only [Decimal.ofParts?, Bool.and_eq_true, List.isEmpty_iff, hne, false_and, if_false,
      Option.some.injEq] at h
    rw [← h]
    exact .fractional hne hds hes

/-- **A text of digits and points is a numeral unless it has a second point.** -/
theorem numeral_of_count_lt (hw : ∀ x ∈ w, isNumeralPart x = true)
    (hcount : (c :: w).count '.' < 2) : ∃ d, Numeral (c :: w) d := by
  obtain ⟨ds, hne, hds, hsplit, -, -⟩ := exists_digits (w := w) hc
  cases hrest : w.dropWhile isDigit with
  | nil =>
    rw [hrest, List.append_nil] at hsplit
    rw [hsplit]
    exact ⟨_, .whole hne hds⟩
  | cons x es =>
    have hpart : ∀ y ∈ x :: es, isNumeralPart y = true := by
      intro y hy
      rw [← hrest] at hy
      exact hw y (List.dropWhile_subset _ hy)
    -- what ends the digits is a point, and no second one can follow it
    have hx : x = '.' := by
      have hnot := endsBefore_dropWhile isDigit w
      rw [hrest, endsBefore_cons] at hnot
      have := hpart x (by simp)
      simpa [isNumeralPart, hnot] using this
    subst hx
    rw [hrest] at hsplit
    have hno : '.' ∉ es := by
      rw [hsplit, List.count_append, count_point_of_digits hds, List.count_cons_self] at hcount
      exact List.count_eq_zero.1 (by omega)
    have hes : ∀ y ∈ es, isDigit y = true := by
      intro y hy
      have hne : y ≠ '.' := by
        rintro rfl
        exact hno hy
      have := hpart y (by simp [hy])
      simpa [isNumeralPart, hne] using this
    rw [hsplit]
    exact ⟨_, .fractional hne hds hes⟩

theorem ofNumeral?_eq_none_iff (hw : ∀ x ∈ w, isNumeralPart x = true) :
    Decimal.ofNumeral? (c :: w) = none ↔ 2 ≤ (c :: w).count '.' := by
  constructor
  · intro h
    by_contra hlt
    obtain ⟨d, hd⟩ := numeral_of_count_lt hc hw (by omega)
    rw [hd.ofNumeral?_eq] at h
    cases h
  · intro hle
    cases h : Decimal.ofNumeral? (c :: w) with
    | none => rfl
    | some d =>
      have hlt := (numeral_of_ofNumeral?_eq hc h).count_lt
      omega

end Cut

/-! ### Scanning a numeral -/

/-- The text opens with a digit, `u` is the run of digits and points from there on, and it has a
second point. -/
structure MalformedNumeral (t u rest : List Char) : Prop where
  split : t = u ++ rest
  digit : u.head?.any isDigit = true
  parts : ∀ c ∈ u, isNumeralPart c = true
  ends : EndsBefore isNumeralPart rest
  points : 2 ≤ u.count '.'

theorem MalformedNumeral.any_isDigit {t u rest : List Char} (h : MalformedNumeral t u rest) :
    t.head?.any isDigit = true := by
  obtain ⟨c, w, rfl, hc⟩ := exists_cons_of_any_isDigit h.digit
  rw [h.split]
  simpa using hc

namespace Ahead

/-- **The numeral that is found ends where the digits and points end.** -/
theorem numeral_eq_found_of_numeral {u rest : List Char} {d : Decimal} (hu : Numeral u d)
    (hr : EndsBefore isNumeralPart rest) : numeral (u ++ rest) = .found (some d) rest := by
  obtain ⟨c, w, rfl, hc⟩ := hu.exists_cons
  have hw : ∀ x ∈ w, isNumeralPart x = true := fun x hx => hu.all_isNumeralPart x (by simp [hx])
  rw [List.cons_append, numeral, takeWhile_append hw hr, dropWhile_append hw hr, hu.ofNumeral?_eq]

section Digit
variable {t rest : List Char} (hd : t.head?.any isDigit = true)
include hd

theorem numeral_of_found {d : Option Decimal} (h : numeral t = .found d rest) :
    ∃ u d', d = some d' ∧ t = u ++ rest ∧ Numeral u d' ∧ EndsBefore isNumeralPart rest := by
  obtain ⟨c, t, rfl, hc⟩ := exists_cons_of_any_isDigit hd
  rw [numeral] at h
  cases hread : Decimal.ofNumeral? (c :: t.takeWhile isNumeralPart) with
  | none => rw [hread] at h; cases h
  | some d' =>
    rw [hread] at h
    injection h with hd hrest
    refine ⟨c :: t.takeWhile isNumeralPart, d', hd.symm, ?_, numeral_of_ofNumeral?_eq hc hread, ?_⟩
    · rw [← hrest, List.cons_append, List.takeWhile_append_dropWhile]
    · rw [← hrest]
      exact endsBefore_dropWhile _ t

/-- **A numeral fails because of a second point.** -/
theorem numeral_eq_failed_iff {place : List Char} {cause : Cause} :
    numeral t = .failed cause place rest ↔
      ∃ u, cause = .malformedNumber u ∧ place = t ∧ MalformedNumeral t u rest := by
  obtain ⟨c, t, rfl, hc⟩ := exists_cons_of_any_isDigit hd
  have hiff := ofNumeral?_eq_none_iff (w := t.takeWhile isNumeralPart) hc
    (fun x hx => List.mem_takeWhile_imp hx)
  rw [numeral]
  constructor
  · intro h
    cases hread : Decimal.ofNumeral? (c :: t.takeWhile isNumeralPart) with
    | some d' => rw [hread] at h; cases h
    | none =>
      rw [hread] at h
      injection h with hcause hplace hrest
      refine ⟨_, hcause.symm, hplace.symm, ⟨?_, by simpa using hc, ?_, ?_, hiff.1 hread⟩⟩
      · rw [← hrest, List.cons_append, List.takeWhile_append_dropWhile]
      · intro x hx
        rcases List.mem_cons.1 hx with rfl | hx
        · exact isNumeralPart_of_isDigit hc
        · exact List.mem_takeWhile_imp hx
      · rw [← hrest]
        exact endsBefore_dropWhile _ t
  · rintro ⟨u, rfl, rfl, hu⟩
    obtain ⟨c', u, rfl, -⟩ := exists_cons_of_any_isDigit hu.digit
    have hsplit := hu.split
    injection hsplit with hcc hw
    have hparts : ∀ x ∈ u, isNumeralPart x = true := fun x hx => hu.parts x (by simp [hx])
    obtain ⟨htake, hdrop⟩ := takeWhile_dropWhile_iff.2 ⟨hw, hparts, hu.ends⟩
    rw [htake] at hiff
    rw [htake, hdrop, hiff.2 (by rw [hcc]; exact hu.points), hcc]

end Digit

end Ahead

end Lexis
