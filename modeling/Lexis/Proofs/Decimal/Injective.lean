import Lexis.Proofs.Decimal.Written
import Lexis.Proofs.Lexeme.Numeral

/-! # The written form identifies the decimal

The positional form of a number is a numeral, and a numeral has one value only, so the form gives back
the coefficient and the number of places (`Decimal.eq_of_positional_eq`). A scientific form is a
positional one in front of a power. The power opens with a letter, which is no character of a numeral,
so the two parts are found again; the point stands behind the first digit whatever the exponent is, and
the power gives back the exponent (`Decimal.eq_of_unsignedChars_eq`). An infinity and a NaN open with
letters of their own (`Decimal.text_injective`). -/

namespace Lexis

open CharClass Run

/-- A numeral has one value. -/
theorem Numeral.unique {u : List Char} {d d' : Decimal} (h : Numeral u d) (h' : Numeral u d') :
    d = d' :=
  Option.some.inj (h.ofNumeral?_eq.symm.trans h'.ofNumeral?_eq)

namespace Decimal

/-! ### The two forms of a finite decimal -/

theorem digits_injective {n n' : Nat} (h : digits n = digits n') : n = n' := by
  have hvalue := congrArg valueOf h
  rwa [valueOf_digits, valueOf_digits] at hvalue

theorem eq_of_positional_eq {c c' places places' : Nat}
    (h : positional (digits c) places = positional (digits c') places') :
    c = c' ∧ places = places' := by
  have hnumeral := Numeral.positional_digits c places
  rw [h] at hnumeral
  have heq := hnumeral.unique (Numeral.positional_digits c' places')
  injection heq with _ hc hplaces
  exact ⟨hc, by omega⟩

/-- The power behind the digits of a scientific form. -/
def power (adj : Int) : List Char := 'E' :: (if adj < 0 then '-' else '+') :: digits adj.natAbs

theorem power_injective {adj adj' : Int} (h : power adj = power adj') : adj = adj' := by
  unfold power at h
  injection h with _ h
  injection h with hsign hdigits
  have habs := digits_injective hdigits
  split_ifs at hsign with hneg hneg'
  · omega
  · exact absurd hsign (by decide)
  · exact absurd hsign (by decide)
  · omega

/-- What follows the digits of a finite decimal, and the number of digits behind the point: no power
and one place for each negative power of ten, or a power and all digits but the first. -/
theorem exists_unsignedChars_eq (c : Nat) (e : Int) :
    ∃ (places : Nat) (rest : List Char),
      unsignedChars c e = positional (digits c) places ++ rest ∧ EndsBefore isNumeralPart rest ∧
        (rest = [] ∧ e = -places ∨
          rest = power (adjusted c e) ∧ places = (digits c).length - 1) := by
  by_cases hplain : e ≤ 0 ∧ -6 ≤ adjusted c e
  · have hplaces : e = -((-e).toNat : Int) := by omega
    refine ⟨(-e).toNat, [], ?_, endsBefore_nil, Or.inl ⟨rfl, hplaces⟩⟩
    rw [unsignedChars_of_le hplain.1 hplain.2, List.append_nil]
  · refine ⟨(digits c).length - 1, power (adjusted c e), ?_, endsBefore_cons.2 rfl,
      Or.inr ⟨rfl, rfl⟩⟩
    have hnot : (decide (e ≤ 0) && decide (-6 ≤ adjusted c e)) = false := by simpa using hplain
    rw [unsignedChars, hnot, if_neg Bool.false_ne_true, scientific_eq (digits_ne_nil c), power]

/-- **The unsigned form gives back the coefficient and the exponent.** -/
theorem eq_of_unsignedChars_eq {c c' : Nat} {e e' : Int}
    (h : unsignedChars c e = unsignedChars c' e') : c = c' ∧ e = e' := by
  obtain ⟨places, rest, heq, hrest, hform⟩ := exists_unsignedChars_eq c e
  obtain ⟨places', rest', heq', hrest', hform'⟩ := exists_unsignedChars_eq c' e'
  rw [heq, heq'] at h
  obtain ⟨hpositional, htail⟩ :=
    eq_of_append_eq (Numeral.positional_digits c places).all_isNumeralPart
      (Numeral.positional_digits c' places').all_isNumeralPart hrest hrest' h
  obtain ⟨rfl, rfl⟩ := eq_of_positional_eq hpositional
  refine ⟨rfl, ?_⟩
  -- a power is not empty, so both are written without one or both with one
  rcases hform with ⟨rfl, hplaces⟩ | ⟨rfl, -⟩ <;> rcases hform' with ⟨hnil, hplaces'⟩ | ⟨hpower, -⟩
  · omega
  · rw [← htail] at hpower
    cases hpower
  · rw [hnil] at htail
    cases htail
  · have hadj := power_injective (htail.trans hpower)
    unfold adjusted at hadj
    omega

/-! ### Signs and special values -/

/-- The decimal has a minus sign. -/
def isNegative : Decimal → Bool
  | finite s _ _ | infinite s | nan s _ _ => s

/-- The digits behind the letters of a NaN. -/
def payloadChars (p : Nat) : List Char := if p = 0 then [] else digits p

/-- The written form without its sign. -/
def bareChars : Decimal → List Char
  | finite _ c e => unsignedChars c e
  | infinite _ => "Infinity".toList
  | nan _ q p => (if q then "sNaN" else "NaN").toList ++ payloadChars p

theorem chars_eq (d : Decimal) : d.chars = signChars d.isNegative ++ d.bareChars := by
  cases d with
  | finite s c e => rfl
  | infinite s => rfl
  | nan s q p => exact List.append_assoc _ _ _

theorem payloadChars_injective {p p' : Nat} (h : payloadChars p = payloadChars p') : p = p' := by
  unfold payloadChars at h
  split_ifs at h with hp hp' hp'
  · omega
  · exact absurd h.symm (digits_ne_nil p')
  · exact absurd h (digits_ne_nil p)
  · exact digits_injective h

/-- A finite decimal opens with a digit. -/
theorem exists_unsignedChars_eq_cons (c : Nat) (e : Int) :
    ∃ d rest, unsignedChars c e = d :: rest ∧ isDigit d = true := by
  obtain ⟨places, rest, heq, -⟩ := exists_unsignedChars_eq c e
  obtain ⟨d, front, hfront, hd⟩ := (Numeral.positional_digits c places).exists_cons
  exact ⟨d, front ++ rest, by rw [heq, hfront, List.cons_append], hd⟩

theorem endsBefore_bareChars (d : Decimal) : EndsBefore (· == '-') d.bareChars := by
  cases d with
  | finite s c e =>
    obtain ⟨x, rest, heq, hx⟩ := exists_unsignedChars_eq_cons c e
    change EndsBefore _ (unsignedChars c e)
    rw [heq, endsBefore_cons, beq_eq_false_iff_ne]
    rintro rfl
    exact absurd hx (by decide)
  | infinite s => exact endsBefore_cons.2 rfl
  | nan s q p => cases q <;> exact endsBefore_cons.2 rfl

theorem unsignedChars_ne_of_not_isDigit {c : Nat} {e : Int} {x : Char} {t : List Char}
    (hx : isDigit x = false) : unsignedChars c e ≠ x :: t := by
  intro h
  obtain ⟨d, rest, heq, hd⟩ := exists_unsignedChars_eq_cons c e
  rw [heq] at h
  injection h with h
  rw [h, hx] at hd
  cases hd

/-- Decimals with the same sign are told apart by the rest of their forms. -/
theorem eq_of_bareChars_eq {d d' : Decimal} (hsign : d.isNegative = d'.isNegative)
    (h : d.bareChars = d'.bareChars) : d = d' := by
  cases d with
  | finite s c e =>
    cases d' with
    | finite s' c' e' =>
      obtain ⟨rfl, rfl⟩ := eq_of_unsignedChars_eq h
      rw [show s = s' from hsign]
    | infinite s' => exact absurd h (unsignedChars_ne_of_not_isDigit rfl)
    | nan s' q' p' => cases q' <;> exact absurd h (unsignedChars_ne_of_not_isDigit rfl)
  | infinite s =>
    cases d' with
    | finite s' c' e' => exact absurd h.symm (unsignedChars_ne_of_not_isDigit rfl)
    | infinite s' => rw [show s = s' from hsign]
    | nan s' q' p' => cases q' <;> cases h
  | nan s q p =>
    cases d' with
    | finite s' c' e' => cases q <;> exact absurd h.symm (unsignedChars_ne_of_not_isDigit rfl)
    | infinite s' => cases q <;> cases h
    | nan s' q' p' =>
      obtain rfl : s = s' := hsign
      -- a signaling NaN opens with another letter than a quiet one
      cases q <;> cases q'
      · rw [payloadChars_injective (List.append_cancel_left h)]
      · cases h
      · cases h
      · rw [payloadChars_injective (List.append_cancel_left h)]

theorem all_signChars (negative : Bool) : ∀ c ∈ signChars negative, (c == '-') = true := by
  cases negative <;> exact List.all_eq_true.1 rfl

theorem signChars_injective {negative negative' : Bool}
    (h : signChars negative = signChars negative') : negative = negative' := by
  revert h
  cases negative <;> cases negative' <;> decide

/-- **The written form identifies the decimal**: its sign, its coefficient and its exponent if it is
finite. -/
theorem text_injective {d d' : Decimal} (h : d.text = d'.text) : d = d' := by
  have hchars : d.chars = d'.chars := String.ofList_injective h
  rw [chars_eq, chars_eq] at hchars
  obtain ⟨hsign, hbare⟩ := eq_of_append_eq (all_signChars _) (all_signChars _)
    (endsBefore_bareChars d) (endsBefore_bareChars d') hchars
  exact eq_of_bareChars_eq (signChars_injective hsign) hbare

end Decimal

end Lexis
