import Lexis.Proofs.Lexeme.Ahead
import Lexis.Token.Spelling
import Mathlib.Tactic.Common

/-! # Which characters open which form

The form of a lexeme is decided by its first two characters in a fixed order of tests. Since the
classes of first characters are disjoint, each form has a condition of its own that does not mention
the tests before it (`Form.ofChars_eq_iff`), except that a version is no word and that the operators
are what is left. So the scan of a lexeme is one of nine, by the way the text opens
(`Ahead.opening_lexeme`). -/

namespace Lexis

namespace CharClass

theorem isSign_iff {c : Char} : isSign c = true ↔ c = '+' ∨ c = '-' := by
  simp [isSign]

/-- A class that excludes another is excluded by it. -/
theorem eq_false_comm {a b : Bool} (h : a = true → b = false) (hb : b = true) : a = false := by
  cases a with
  | false => rfl
  | true => rw [h rfl] at hb; cases hb

theorem isWordStart_eq_false_of_isDigit {c : Char} (h : isDigit c = true) :
    isWordStart c = false := by
  have hne : c ≠ '_' := by
    rintro rfl
    exact absurd h (by decide)
  have hl : isLetter c = false := eq_false_comm isDigit_eq_false_of_isLetter h
  simp [isWordStart, hl, hne]

theorem isDigit_eq_false_of_isSign {c : Char} (h : isSign c = true) : isDigit c = false := by
  rcases isSign_iff.1 h with rfl | rfl <;> rfl

theorem isSign_eq_false_of_isDigit {c : Char} (h : isDigit c = true) : isSign c = false :=
  eq_false_comm isDigit_eq_false_of_isSign h

theorem isBlank_eq_false_of_isWordStart {c : Char} (h : isWordStart c = true) :
    isBlank c = false := by
  rw [isWordStart, Bool.or_eq_true, beq_iff_eq] at h
  rcases h with h | rfl
  · exact isBlank_eq_false_of_isLetter h
  · rfl

theorem isBlank_eq_false_of_isWordPart {c : Char} (h : isWordPart c = true) :
    isBlank c = false := by
  rw [isWordPart, Bool.or_eq_true] at h
  rcases h with h | h
  · exact isBlank_eq_false_of_isLetter h
  · exact isBlank_eq_false_of_isDigit h

theorem isBlank_eq_false_of_isNumeralPart {c : Char} (h : isNumeralPart c = true) :
    isBlank c = false := by
  rw [isNumeralPart, Bool.or_eq_true, beq_iff_eq] at h
  rcases h with h | rfl
  · exact isBlank_eq_false_of_isDigit h
  · rfl

theorem isWordPart_of_isDigit {c : Char} (h : isDigit c = true) : isWordPart c = true := by
  simp [isWordPart, h]

theorem isNumeralPart_of_isDigit {c : Char} (h : isDigit c = true) : isNumeralPart c = true := by
  simp [isNumeralPart, h]

theorem exists_cons_of_any_isDigit {t : List Char} (h : t.head?.any isDigit = true) :
    ∃ c rest, t = c :: rest ∧ isDigit c = true := by
  cases t with
  | nil => cases h
  | cons c rest => exact ⟨c, rest, rfl, by simpa using h⟩

end CharClass

namespace Form

open CharClass

variable {c : Char} {o : Option Char}

/-- The condition under which a lexeme that opens with `c` and goes on with `o` has the form. -/
def Opens (c : Char) (o : Option Char) : Form → Prop
  | .version => c = 'v' ∧ o.any isDigit = true
  | .word => isWordStart c = true ∧ ¬(c = 'v' ∧ o.any isDigit = true)
  | .string => c = '"'
  | .interpolated => c = '$'
  | .charLiteral => c = '\''
  | .number => isDigit c = true ∨ isSign c = true ∧ o.any isDigit = true
  | .blockComment => c = '/' ∧ o = some '*'
  | .lineComment => c = '/' ∧ o = some '/'
  | .sign =>
    isWordStart c = false ∧ c ≠ '"' ∧ c ≠ '$' ∧ c ≠ '\'' ∧ isDigit c = false ∧
      ¬(isSign c = true ∧ o.any isDigit = true) ∧ ¬(c = '/' ∧ (o = some '*' ∨ o = some '/'))

/-- A digit opens no other form than a number. -/
theorem ofChars_of_isDigit (h : isDigit c = true) : ofChars c o = .number := by
  have hw := isWordStart_eq_false_of_isDigit h
  have hne : ∀ d, isDigit d = false → c ≠ d := by
    rintro d hd rfl
    rw [h] at hd
    cases hd
  simp [ofChars, h, hw, hne 'v' rfl, hne '"' rfl, hne '$' rfl, hne '\'' rfl]

theorem ofChars_v (ho : o.any isDigit = true) : ofChars 'v' o = .version := by
  simp [ofChars, ho]

theorem ofChars_of_isSign (h : isSign c = true) (ho : o.any isDigit = true) :
    ofChars c o = .number := by
  rcases isSign_iff.1 h with rfl | rfl
  · simp [ofChars, ho, isWordStart, isLetter, isSign]
  · simp [ofChars, ho, isWordStart, isLetter, isSign]

theorem opens_ofChars (c : Char) (o : Option Char) : Opens c o (ofChars c o) := by
  unfold ofChars
  simp only [Bool.and_eq_true, Bool.or_eq_true, decide_eq_true_eq]
  split_ifs with h1 h2 h3 h4 h5 h6 h7 h8
  · exact h1
  · exact ⟨h2, h1⟩
  · exact h3
  · exact h4
  · exact h5
  · exact h6
  · exact h7
  · exact h8
  · rw [not_or] at h6
    exact ⟨by simpa using h2, h3, h4, h5, by simpa using h6.1, h6.2,
      fun ⟨hc, ho⟩ => ho.elim (fun ho => h7 ⟨hc, ho⟩) (fun ho => h8 ⟨hc, ho⟩)⟩

/-- **Each form has its own condition.** -/
theorem ofChars_eq_iff {f : Form} : ofChars c o = f ↔ Opens c o f := by
  constructor
  · rintro rfl
    exact opens_ofChars c o
  · intro h
    cases f with
    | version =>
      obtain ⟨rfl, ho⟩ := h
      exact ofChars_v ho
    | word =>
      have h1 : ¬(decide (c = 'v') && o.any isDigit) = true := by simpa using h.2
      unfold ofChars
      rw [if_neg h1, if_pos h.1]
    | string => subst h; rfl
    | interpolated => subst h; rfl
    | charLiteral => subst h; rfl
    | number =>
      rcases h with h | ⟨h, ho⟩
      · exact ofChars_of_isDigit h
      · exact ofChars_of_isSign h ho
    | blockComment => obtain ⟨rfl, rfl⟩ := h; rfl
    | lineComment => obtain ⟨rfl, rfl⟩ := h; rfl
    | sign =>
      obtain ⟨hw, h3, h4, h5, hd, hs, hslash⟩ := h
      have hv : c ≠ 'v' := by
        rintro rfl
        exact absurd hw (by decide)
      have h6 : ¬(isDigit c || (isSign c && o.any isDigit)) = true := by simpa [hd] using hs
      have h7 : ¬(decide (c = '/') && decide (o = some '*')) = true := by
        simpa using fun hc ho => hslash ⟨hc, Or.inl ho⟩
      have h8 : ¬(decide (c = '/') && decide (o = some '/')) = true := by
        simpa using fun hc ho => hslash ⟨hc, Or.inr ho⟩
      simp only [ofChars, hv, hw, decide_false, Bool.false_and, Bool.false_eq_true, if_false, h3, h4,
        h5, if_neg h6, if_neg h7, if_neg h8]

/-- What is left to the operators is left to them at the end of the text too. -/
theorem ofChars_none_eq_sign (h : ofChars c o = .sign) : ofChars c none = .sign := by
  obtain ⟨hw, h3, h4, h5, hd, -, -⟩ := ofChars_eq_iff.1 h
  exact ofChars_eq_iff.2 ⟨hw, h3, h4, h5, hd, by simp, by simp⟩

end Form

namespace Ahead

open CharClass

/-! ### The scan of a lexeme -/

theorem signed_some_eq {c : Char} (d : Decimal) : Scan.signed (some c) d = signedValue [c] d := by
  simp [Scan.signed, signedValue]

theorem signed_none_eq (d : Decimal) : Scan.signed none d = signedValue [] d := by
  simp [Scan.signed, signedValue]

/-- What the scan of a lexeme comes to, by the way the text opens. -/
inductive Opening : List Char → Scanned (Option Token) → Prop
  | nothing : Opening [] (.found none [])
  | version {t : List Char} : t.head?.any isDigit = true → Opening ('v' :: t) (version t)
  | word {c : Char} {t : List Char} : Form.ofChars c t.head? = .word → Opening (c :: t) (word c t)
  | string {t : List Char} : Opening ('"' :: t) (string t)
  | interpolated {t : List Char} : Opening ('$' :: t) (interpolated t)
  | charLiteral {t : List Char} : Opening ('\'' :: t) (charLiteral t)
  | number {sign t : List Char} : sign ∈ [[], ['+'], ['-']] → t.head?.any isDigit = true →
      Opening (sign ++ t) ((numeral t).map (Option.map fun d => .number (signedValue sign d)))
  | blockComment {t : List Char} : Opening ('/' :: '*' :: t) (blockComment t)
  | lineComment {t : List Char} : Opening ('/' :: '/' :: t) (lineComment t)
  | sign {c : Char} {t : List Char} : Form.ofChars c t.head? = .sign → Opening (c :: t) (sign c t)

theorem number_eq_of_isSign {c : Char} (t : List Char) (h : isSign c = true) :
    number c t = (numeral t).map (Option.map fun d => .number (signedValue [c] d)) := by
  rw [number, if_pos h]
  simp only [signed_some_eq]

theorem number_eq_of_isDigit {c : Char} (t : List Char) (h : isDigit c = true) :
    number c t = (numeral (c :: t)).map (Option.map fun d => .number (signedValue [] d)) := by
  rw [number, isSign_eq_false_of_isDigit h]
  simp only [signed_none_eq, Bool.false_eq_true, if_false]

theorem opening_lexeme (t : List Char) : Opening t (lexeme t) := by
  cases t with
  | nil => exact .nothing
  | cons c t =>
    rw [lexeme]
    cases hf : Form.ofChars c t.head? with
    | version =>
      obtain ⟨rfl, hd⟩ := Form.ofChars_eq_iff.1 hf
      exact .version hd
    | word => exact .word hf
    | string =>
      obtain rfl : c = '"' := Form.ofChars_eq_iff.1 hf
      exact .string
    | interpolated =>
      obtain rfl : c = '$' := Form.ofChars_eq_iff.1 hf
      exact .interpolated
    | charLiteral =>
      obtain rfl : c = '\'' := Form.ofChars_eq_iff.1 hf
      exact .charLiteral
    | number =>
      rw [lexemeOf]
      rcases Form.ofChars_eq_iff.1 hf with hc | ⟨hc, hd⟩
      · rw [number_eq_of_isDigit t hc]
        exact @Opening.number [] _ (by simp) (by simpa using hc)
      · rw [number_eq_of_isSign t hc]
        have hs : [c] ∈ [[], ['+'], ['-']] := by
          rcases isSign_iff.1 hc with rfl | rfl <;> simp
        exact .number hs hd
    | blockComment =>
      obtain ⟨rfl, hstar⟩ := Form.ofChars_eq_iff.1 hf
      obtain ⟨t, rfl⟩ := List.head?_eq_some_iff.1 hstar
      exact .blockComment
    | lineComment =>
      obtain ⟨rfl, hslash⟩ := Form.ofChars_eq_iff.1 hf
      obtain ⟨t, rfl⟩ := List.head?_eq_some_iff.1 hslash
      exact .lineComment
    | sign => exact .sign hf

/-- **The opening of a text decides its scan.** -/
theorem Opening.lexeme_eq {t : List Char} {o : Scanned (Option Token)} (h : Opening t o) :
    lexeme t = o := by
  cases h with
  | version hd => rw [lexeme, Form.ofChars_v hd, lexemeOf]
  | word hf => rw [lexeme, hf, lexemeOf]
  | sign hf => rw [lexeme, hf, lexemeOf]
  | number hs hd =>
    simp only [List.mem_cons, List.not_mem_nil, or_false] at hs
    rcases hs with rfl | rfl | rfl
    · obtain ⟨c, w, rfl, hc⟩ := exists_cons_of_any_isDigit hd
      rw [List.nil_append, lexeme, Form.ofChars_of_isDigit hc, lexemeOf, number_eq_of_isDigit w hc]
    · rw [List.singleton_append, lexeme, Form.ofChars_of_isSign rfl hd, lexemeOf,
        number_eq_of_isSign _ rfl]
    · rw [List.singleton_append, lexeme, Form.ofChars_of_isSign rfl hd, lexemeOf,
        number_eq_of_isSign _ rfl]
  | _ => rfl

end Ahead

end Lexis
