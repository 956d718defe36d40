import Lexis.Token.Spelling
import Mathlib.Tactic.Common

/-! # The written form of decimals

The digits of a number are read back to it (`Decimal.valueOf_digits`), and zeros in front of them make
no difference. So the positional form of a number is a numeral, and it has this number as its
coefficient and the digits behind the point as its places (`Numeral.positional`). The scientific form
opens with a positional one, in which all digits but the first stand behind the point
(`Decimal.scientific_eq`). -/

namespace Lexis

open CharClass

namespace Decimal

/-! ### Digits -/

theorem valueOf_eq_ofDigitChars (ds : List Char) : valueOf ds = Nat.ofDigitChars 10 ds 0 := by
  simp only [valueOf, Nat.ofDigitChars_eq_foldl, Nat.mul_comm]

theorem valueOf_digits (n : Nat) : valueOf (digits n) = n := by
  rw [valueOf_eq_ofDigitChars, digits, Nat.ofDigitChars_toDigits (by decide) (by decide)]

theorem valueOf_replicate_zero_append (n : Nat) (ds : List Char) :
    valueOf (List.replicate n '0' ++ ds) = valueOf ds := by
  rw [valueOf_eq_ofDigitChars, Nat.ofDigitChars_append, Nat.ofDigitChars_replicate_zero,
    Nat.mul_zero, valueOf_eq_ofDigitChars]

theorem isDigit_of_mem_digits {n : Nat} {c : Char} (h : c ∈ digits n) : isDigit c = true := by
  have hdigit : c.isDigit = true := Nat.isDigit_of_mem_toDigits (by decide) (by decide) h
  rw [Char.isDigit, Bool.and_eq_true, decide_eq_true_eq, decide_eq_true_eq] at hdigit
  rw [isDigit, Bool.and_eq_true, decide_eq_true_eq, decide_eq_true_eq]
  exact hdigit

theorem digits_ne_nil (n : Nat) : digits n ≠ [] := Nat.toDigits_ne_nil

/-! ### Forms -/

/-- The scientific form is a positional one, the letter `E` and a number with its sign. -/
theorem scientific_eq {ds : List Char} (hne : ds ≠ []) (adj : Int) :
    scientific ds adj =
      positional ds (ds.length - 1) ++
        'E' :: (if adj < 0 then '-' else '+') :: digits adj.natAbs := by
  match ds with
  | [d] => rfl
  | d :: d' :: rest => simp [scientific, positional]

theorem unsignedChars_of_le {c : Nat} {e : Int} (he : e ≤ 0) (hadj : -6 ≤ adjusted c e) :
    unsignedChars c e = positional (digits c) (-e).toNat := by
  simp [unsignedChars, he, hadj]

theorem unsignedChars_of_lt {c : Nat} {e : Int} (hadj : adjusted c e < -6) :
    unsignedChars c e =
      positional (digits c) ((digits c).length - 1) ++
        'E' :: '-' :: digits (adjusted c e).natAbs := by
  have hnot : ¬-6 ≤ adjusted c e := by omega
  have hneg : adjusted c e < 0 := by omega
  rw [unsignedChars, decide_eq_false hnot, Bool.and_false, if_neg Bool.false_ne_true,
    scientific_eq (digits_ne_nil c), if_pos hneg]

end Decimal

/-- **A positional form is a numeral** with its digits as the coefficient. -/
theorem Numeral.positional {ds : List Char} (hne : ds ≠ []) (hds : ∀ c ∈ ds, isDigit c = true)
    (places : Nat) :
    Numeral (Decimal.positional ds places) (.finite false (Decimal.valueOf ds) (-places)) := by
  unfold Decimal.positional
  split_ifs with hzero hlt
  · subst hzero
    exact .whole hne hds
  · -- the point stands between the digits
    have hfront : ds.take (ds.length - places) ≠ [] := by
      rw [← List.length_pos_iff, List.length_take]
      omega
    have hplaces : (ds.drop (ds.length - places)).length = places := by
      rw [List.length_drop]
      omega
    have hwhole : ∀ c ∈ ds.take (ds.length - places), isDigit c = true :=
      fun c hc => hds c (List.mem_of_mem_take hc)
    have hfraction : ∀ c ∈ ds.drop (ds.length - places), isDigit c = true :=
      fun c hc => hds c (List.mem_of_mem_drop hc)
    have h := Numeral.fractional hfront hwhole hfraction
    rwa [List.take_append_drop, hplaces] at h
  · -- the point stands in front of the digits, and zeros fill the places between
    have hplaces : (List.replicate (places - ds.length) '0' ++ ds).length = places := by
      rw [List.length_append, List.length_replicate]
      omega
    have hdigits : ∀ c ∈ List.replicate (places - ds.length) '0' ++ ds, isDigit c = true := by
      intro c hc
      rcases List.mem_append.1 hc with hc | hc
      · rw [List.eq_of_mem_replicate hc]
        rfl
      · exact hds c hc
    have hvalue : Decimal.valueOf (['0'] ++ (List.replicate (places - ds.length) '0' ++ ds)) =
        Decimal.valueOf ds := by
      rw [List.singleton_append, ← List.cons_append, ← List.replicate_succ,
        Decimal.valueOf_replicate_zero_append]
    have h := @Numeral.fractional ['0'] _ (by simp) (by simp [isDigit]) hdigits
    rwa [hvalue, hplaces] at h

/-- The positional form of a number is a numeral that has it as its coefficient. -/
theorem Numeral.positional_digits (c places : Nat) :
    Numeral (Decimal.positional (Decimal.digits c) places) (.finite false c (-places)) := by
  have h := Numeral.positional (Decimal.digits_ne_nil c)
    (fun _ hx => Decimal.isDigit_of_mem_digits hx) places
  rwa [Decimal.valueOf_digits] at h

/-- The digits of a number are a numeral of it. -/
theorem Numeral.digits (n : Nat) : Numeral (Decimal.digits n) (.finite false n 0) :=
  Numeral.positional_digits n 0

end Lexis
