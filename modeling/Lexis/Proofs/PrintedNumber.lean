import Lexis.Proofs.Decimal.Written
import Lexis.Proofs.Pieces

/-! # Printed numbers, lexed again

A token that holds a decimal holds a coefficient and a number of places, with a sign only if it is a
number other than zero (`Numeric.exists_spells_iff`). Printed positionally, such a decimal is a
spelling of its token. Printed with an exponent it is not: the lexer knows no exponents, and finds the
digits in front of it, a word and a negative number (`Numeric.tokenize_scientific`). Which of the two
forms is printed depends on the place of the first digit alone, so this place decides whether the
printed form is lexed to the token that it was printed from (`tokenize_printed`). -/

namespace Lexis

open CharClass Run Decimal

/-- The kinds of token that hold a decimal. -/
inductive Numeric
  | number
  | version
  deriving DecidableEq, Repr

namespace Numeric

/-- The token of the kind that holds the decimal. -/
def token : Numeric → Decimal → Token
  | number => .number
  | version => .version

/-- What stands in front of the decimal in a spelling. -/
def lead : Numeric → List Char
  | number => []
  | version => ['v']

/-- Tokens of the kind may hold a decimal of this sign and coefficient: a version has no sign, and a
number has one only if it is not zero. -/
def Admits : Numeric → Bool → Nat → Prop
  | number, negative, c => negative = true → c ≠ 0
  | version, negative, _ => negative = false

/-- A numeral behind its sign and what stands in front of that. -/
def spelling (k : Numeric) (negative : Bool) (u : List Char) : List Char :=
  k.lead ++ (signChars negative ++ u)

theorem spelling_append (k : Numeric) (negative : Bool) (u rest : List Char) :
    k.spelling negative (u ++ rest) = k.spelling negative u ++ rest := by
  simp only [spelling, List.append_assoc]

/-! ### Spellings of a decimal -/

section Spelling
variable {k : Numeric} {negative : Bool} {c : Nat}

theorem signChars_mem (negative : Bool) : signChars negative ∈ [[], ['+'], ['-']] := by
  cases negative <;> decide

/-- A sign that is admitted is kept. -/
theorem signedValue_signChars (h : number.Admits negative c) (e : Int) :
    signedValue (signChars negative) (.finite false c e) = .finite negative c e := by
  cases negative with
  | false => rfl
  | true =>
    have hzero : (Decimal.finite false c e).isZero = false := beq_eq_false_iff_ne.2 (h rfl)
    rw [signedValue, hzero]
    rfl

/-- A numeral of the coefficient spells the token. -/
theorem spells_spelling (h : k.Admits negative c) {u : List Char} {e : Int}
    (hu : Numeral u (.finite false c e)) :
    Spells (k.spelling negative u) (k.token (.finite negative c e)) := by
  cases k with
  | number =>
    have hspells := Spells.number (signChars_mem negative) hu
    rwa [signedValue_signChars h] at hspells
  | version =>
    obtain rfl : negative = false := h
    exact .version hu

/-- Such a spelling goes on with digits and points only. -/
theorem goesOn_spelling (h : k.Admits negative c) {u : List Char} {e : Int}
    (hu : Numeral u (.finite false c e)) : goesOn (k.spelling negative u) = isNumeralPart := by
  cases k with
  | number =>
    have hgoesOn := Ahead.goesOn_number (signChars_mem negative) hu
    exact hgoesOn
  | version =>
    obtain rfl : negative = false := h
    exact Ahead.goesOn_version hu

theorem exists_of_numeral {u : List Char} {d : Decimal} (hu : Numeral u d) :
    ∃ c places : Nat, d = .finite false c (-places) := by
  cases hu with
  | whole _ _ => exact ⟨_, 0, rfl⟩
  | fractional _ _ _ => exact ⟨_, _, rfl⟩

theorem exists_of_signedValue {sign : List Char} {c places : Nat} :
    ∃ negative, signedValue sign (.finite false c (-places)) = .finite negative c (-places) ∧
      number.Admits negative c := by
  unfold signedValue
  split_ifs with h
  · exact ⟨true, rfl, fun _ => beq_eq_false_iff_ne.1 h.2⟩
  · exact ⟨false, rfl, fun hfalse => absurd hfalse Bool.false_ne_true⟩

/-- **The decimals of tokens** have a natural number of places and an admitted sign, and all these
decimals are held by tokens. -/
theorem exists_spells_iff {d : Decimal} :
    (∃ l, Spells l (k.token d)) ↔
      ∃ negative, ∃ c places : Nat, d = .finite negative c (-places) ∧ k.Admits negative c := by
  constructor
  · rintro ⟨l, hl⟩
    cases k with
    | number =>
      change Spells l (.number d) at hl
      cases hl with
      | @number sign _ _ _ hu =>
        obtain ⟨c, places, rfl⟩ := exists_of_numeral hu
        obtain ⟨negative, hd, hadmits⟩ := @exists_of_signedValue sign c places
        exact ⟨negative, c, places, hd, hadmits⟩
    | version =>
      change Spells l (.version d) at hl
      cases hl with
      | version hu =>
        obtain ⟨c, places, rfl⟩ := exists_of_numeral hu
        exact ⟨false, c, places, rfl, rfl⟩
  · rintro ⟨negative, c, places, rfl, h⟩
    exact ⟨_, spells_spelling h (Numeral.positional_digits c places)⟩

end Spelling

/-! ### The two printed forms -/

/-- The letter of an exponent is an identifier. -/
theorem spells_exponentLetter : Spells ['E'] (.identifier "E") := by
  have hword : IsWord ['E'] := ⟨'E', [], rfl, rfl, by simp⟩
  have hversion : ¬BeginsVersion ['E'] := by
    rintro ⟨d, rest, heq, -⟩
    cases heq
  exact spells_ofWord hword hversion

section Printed
variable {k : Numeric} {negative : Bool} {c places : Nat} (h : k.Admits negative c)
include h

/-- The positional form is lexed to the token. -/
theorem tokenize_positional (hplain : -6 ≤ adjusted c (-places)) :
    tokenize (k.spelling negative (unsignedChars c (-places))) =
      .ok [k.token (.finite negative c (-places))] := by
  have hexponent : -(places : Int) ≤ 0 := by omega
  have hplaces : (-(-(places : Int))).toNat = places := by omega
  rw [unsignedChars_of_le hexponent hplain, hplaces]
  exact tokenize_of_spells (spells_spelling h (Numeral.positional_digits c places))

/-- The scientific form is lexed to a token of the same kind, a word and a negative number. -/
theorem tokenize_scientific (hsmall : adjusted c (-places) < -6) :
    tokenize (k.spelling negative (unsignedChars c (-places))) =
      .ok [k.token (.finite negative c (-((digits c).length - 1 : Nat))), .identifier "E",
        .number (.finite true (adjusted c (-places)).natAbs 0)] := by
  rw [unsignedChars_of_lt hsmall, spelling_append]
  -- behind the digits stands the letter, and behind the letter the sign
  have hmantissa := Numeral.positional_digits c ((digits c).length - 1)
  have hletter : EndsBefore
      (goesOn (k.spelling negative (positional (digits c) ((digits c).length - 1))))
      ('E' :: '-' :: digits (adjusted c (-places)).natAbs) := by
    rw [goesOn_spelling h hmantissa]
    exact endsBefore_cons.2 rfl
  have hsign : EndsBefore (goesOn ['E']) ('-' :: digits (adjusted c (-places)).natAbs) :=
    endsBefore_cons.2 (by decide)
  have hpower : number.Admits true (adjusted c (-places)).natAbs := by
    intro _
    omega
  have hexponent : tokenize ('-' :: digits (adjusted c (-places)).natAbs) =
      .ok [.number (.finite true (adjusted c (-places)).natAbs 0)] :=
    tokenize_of_spells (spells_spelling hpower (Numeral.digits _))
  have hword := tokenize_of_standsBefore ⟨['E'], rfl, spells_exponentLetter, hsign⟩ hexponent
  exact tokenize_of_standsBefore ⟨_, rfl, spells_spelling h hmantissa, hletter⟩ hword

end Printed

end Numeric

/-- **A printed number is lexed to itself exactly if it is printed without an exponent.** Take a number
or a version among the tokens of any text, and print its decimal, behind the letter `v` for a version.
The decimal is finite, with some sign, coefficient and exponent. If the first digit of the coefficient
stands no lower than the sixth place behind the point, then the printed form is lexed to one token of
the same kind with the same decimal, and only then. Otherwise the printed form has the letter `E` in
it, and is lexed to three tokens: one of the same kind for the digits in front of the letter, the
letter as an identifier, and the negative number behind it. -/
theorem tokenize_printed {text : List Char} {ts : List Token} (h : tokenize text = .ok ts)
    (k : Numeric) {d : Decimal} (hd : k.token d ∈ ts) :
    let printed := k.lead ++ d.text.toList
    ∃ negative c e, d = .finite negative c e ∧
      (tokenize printed = .ok [k.token d] ↔ -6 ≤ e + (digits c).length - 1) ∧
      (e + (digits c).length - 1 < -6 →
        'E' ∈ d.text.toList ∧
          tokenize printed = .ok [k.token (.finite negative c (-((digits c).length - 1 : Nat))),
            .identifier "E", .number (.finite true (e + (digits c).length - 1).natAbs 0)]) := by
  intro printed
  obtain ⟨ps, tail, -, -, rfl⟩ := exists_pieces_of_tokenize h
  obtain ⟨p, -, hp⟩ := List.mem_map.1 hd
  have hspells : Spells p.lexeme (k.token d) := by
    rw [← hp]
    exact p.spells
  obtain ⟨negative, c, places, rfl, hadmits⟩ := Numeric.exists_spells_iff.1 ⟨_, hspells⟩
  have hchars : (Decimal.finite negative c (-places)).text.toList =
      signChars negative ++ unsignedChars c (-places) := String.toList_ofList
  have hprinted : printed = k.spelling negative (unsignedChars c (-places)) := by
    rw [Numeric.spelling, ← hchars]
  rw [hprinted, hchars]
  refine ⟨negative, c, -places, rfl, ⟨fun hone => ?_, Numeric.tokenize_positional hadmits⟩, ?_⟩
  · by_contra hsmall
    rw [Numeric.tokenize_scientific hadmits (Int.not_le.1 hsmall)] at hone
    injection hone with hone
    have hlength := congrArg List.length hone
    simp at hlength
  · intro hsmall
    refine ⟨?_, Numeric.tokenize_scientific hadmits hsmall⟩
    rw [unsignedChars_of_lt hsmall]
    simp

/-- A version behind a word, whose first digit stands at the seventh place behind the point. -/
theorem tokenize_printed_of_small_version :
    let d := Decimal.finite false 10 (-8)
    tokenize "x v0.00000010".toList = .ok [.identifier "x", .version d] ∧
      tokenize (['v'] ++ d.text.toList) ≠ .ok [.version d] ∧
      'E' ∈ d.text.toList ∧
      tokenize (['v'] ++ d.text.toList) =
        .ok [.version (.finite false 10 (-1)), .identifier "E", .number (.finite true 7 0)] := by
  intro d
  have h : tokenize "x v0.00000010".toList = .ok [.identifier "x", .version d] := by
    decide +kernel
  obtain ⟨negative, c, e, hd, hplain, hsmall⟩ :=
    tokenize_printed h .version (d := d) (.tail _ (.head _))
  change Decimal.finite false 10 (-8) = _ at hd
  cases hd
  obtain ⟨hletter, htokens⟩ := hsmall (by decide)
  exact ⟨h, fun hone => absurd (hplain.1 hone) (by decide), hletter, htokens⟩

end Lexis
