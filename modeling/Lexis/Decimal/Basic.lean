/-!
# Decimal numbers

A finite decimal keeps the form it was written in: a sign, a coefficient and a power of ten, so that
`1.50` and `1.5` are two decimals of one value. Beside the finite ones there are the two infinities
and the numbers that stand for no value, quiet or signaling, with a diagnostic payload.
-/

namespace Lexis

/-- A decimal of unlimited precision; `finite s c e` is `± c · 10 ^ e`. -/
inductive Decimal
  | finite (negative : Bool) (coefficient : Nat) (exponent : Int)
  | infinite (negative : Bool)
  | nan (negative signaling : Bool) (payload : Nat)
  deriving DecidableEq, Repr

namespace Decimal

/-- The decimal digits of a natural number, `0` for zero. -/
def digits (n : Nat) : List Char := Nat.toDigits 10 n

/-- The power of ten of the first digit of `c · 10 ^ e`. -/
def adjusted (c : Nat) (e : Int) : Int := e + (digits c).length - 1

/-- The decimal is finite and its value is zero. -/
def isZero : Decimal → Bool
  | finite _ c _ => c == 0
  | _ => false

/-- The decimal with the other sign. -/
def negate : Decimal → Decimal
  | finite s c e => finite (!s) c e
  | infinite s => infinite (!s)
  | nan s q p => nan (!s) q p

/-- A NaN that may not take part in a comparison. -/
def isSignaling : Decimal → Bool
  | nan _ signaling _ => signaling
  | _ => false

/-- Equality of values: the form does not matter, zeros of both signs agree, and a NaN equals
nothing. Two values that are not zero can only agree when their first digits have the same power of
ten, so the coefficients are never shifted further than the number of their digits. -/
def sameValue : Decimal → Decimal → Bool
  | finite s c e, finite s' c' e' =>
    if c = 0 || c' = 0 then c == c'
    else s == s' && adjusted c e == adjusted c' e' &&
      c * Nat.pow 10 (e - e').toNat == c' * Nat.pow 10 (e' - e).toNat
  | infinite s, infinite s' => s == s'
  | _, _ => false

end Decimal

end Lexis
