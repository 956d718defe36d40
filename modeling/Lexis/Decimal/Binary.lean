import Lexis.Decimal.Text

/-!
# Binary numbers

A binary number has a significand of at most 53 bits and a power of two from -1074 to 971. A decimal
becomes the nearest binary number, and of two that are equally near the one with the even
significand. A binary number is written with the fewest digits that become the same number again, and
of several such decimals as the nearest one.
-/

namespace Lexis

/-- A binary number; `finite s m q` is `± m · 2 ^ q`. -/
inductive Binary64
  | finite (negative : Bool) (significand : Nat) (exponent : Int)
  | infinite (negative : Bool)
  | nan
  deriving DecidableEq, Repr

namespace Binary64

/-- A positive fraction. -/
structure Fraction where
  num : Nat
  den : Nat
  deriving DecidableEq, Repr

namespace Fraction

/-- The fraction `n · base ^ e`. -/
def power (base n : Nat) (e : Int) : Fraction := ⟨n * Nat.pow base e.toNat, Nat.pow base (-e).toNat⟩

/-- The fraction divided by `base ^ e`. -/
def scale (base : Nat) (e : Int) (f : Fraction) : Fraction :=
  ⟨f.num * Nat.pow base (-e).toNat, f.den * Nat.pow base e.toNat⟩

/-- The greatest integer that is not above the fraction. -/
def floor (f : Fraction) : Nat := f.num / f.den

/-- The integer nearest to the fraction; of two, the even one. -/
def round (f : Fraction) : Nat :=
  let twice := 2 * (f.num % f.den)
  if twice < f.den || (twice == f.den && f.floor % 2 == 0) then f.floor else f.floor + 1

/-- The greatest `e` such that `2 ^ e` is not above the fraction. -/
def log2 (f : Fraction) : Int :=
  let e : Int := (Nat.log2 f.num : Int) - (Nat.log2 f.den : Int)
  if (f.scale 2 e).floor = 0 then e - 1 else e

/-- The order of fractions. -/
def le (f g : Fraction) : Bool := f.num * g.den ≤ g.num * f.den

end Fraction

/-! ### From decimals -/

/-- The least exponent of a binary number. -/
def leastExponent : Int := -1074

/-- The greatest exponent of a binary number. -/
def greatestExponent : Int := 971

/-- The number below which all significands are. -/
def significandBound : Nat := 0x20000000000000

/-- The binary number with a significand that rounding may have carried to the bound. -/
def carry (negative : Bool) (m : Nat) (q : Int) : Binary64 :=
  let (m, q) := if m = significandBound then (m / 2, q + 1) else (m, q)
  if greatestExponent < q then infinite negative else finite negative m q

/-- The binary number nearest to a positive fraction. -/
def ofFraction (negative : Bool) (f : Fraction) : Binary64 :=
  let q := max (f.log2 - 52) leastExponent
  carry negative (f.scale 2 q).round q

/-- The binary number nearest to a decimal. The first digit alone tells that a decimal lies far
outside of the range. -/
def ofDecimal : Decimal → Binary64
  | .infinite s => infinite s
  | .nan .. => nan
  | .finite s c e =>
    if c = 0 || Decimal.adjusted c e < -330 then finite s 0 leastExponent
    else if 310 < Decimal.adjusted c e then infinite s
    else ofFraction s (Fraction.power 10 c e)

/-! ### The fewest digits -/

/-- The decimals between the two ends become the binary number `m · 2 ^ q`; the ends themselves do
so when `m` is even. Below the least significand of a power of two the numbers lie twice as dense. -/
def readsBack (m : Nat) (q : Int) (f : Fraction) : Bool :=
  let low := if m = significandBound / 2 && leastExponent < q then 4 * m - 1 else 4 * m - 2
  let low := Fraction.power 2 low (q - 2)
  let high := Fraction.power 2 (4 * m + 2) (q - 2)
  if m % 2 = 0 then low.le f && f.le high else !f.le low && !high.le f

/-- The place of the point before the first digit of a fraction: the least `k` with the fraction below
`10 ^ k`, for fractions of which the first digit stands at most 330 places behind the point. -/
def pointOf (f : Fraction) : Int := (Decimal.digits (f.scale 10 (-330)).floor).length - 330

/-- The decimal with `n` digits that is nearest to `m · 2 ^ q` among those that read back, if there is
one. -/
def withDigits? (m : Nat) (q : Int) (n : Nat) : Option (Nat × Int) :=
  let f := Fraction.power 2 m q
  let e := pointOf f - n
  let low := (f.scale 10 e).floor
  let near := (f.scale 10 e).round
  let far := if near = low then low + 1 else low
  ([near, far].find? fun c => readsBack m q (Fraction.power 10 c e)).map (·, e)

/-- The coefficient and the exponent of the shortest decimal that becomes `m · 2 ^ q`. Seventeen
digits are always enough. -/
def shortest (m : Nat) (q : Int) : Nat × Int :=
  ((List.range 17).findSome? fun n => withDigits? m q (n + 1)).getD (0, 0)

/-! ### Writing -/

/-- The digits without the zeros behind the last other digit. -/
def significant (ds : List Char) : List Char := (ds.reverse.dropWhile (· == '0')).reverse

/-- The digits with the point before the digit number `point`, with a zero on either side where there
is no digit. -/
def positional (ds : List Char) (point : Int) : List Char :=
  if point ≤ 0 then '0' :: '.' :: (List.replicate (-point).toNat '0' ++ ds)
  else
    let whole := ds.take point.toNat
    let fraction := ds.drop point.toNat
    whole ++ List.replicate (point.toNat - whole.length) '0' ++ '.' ::
      (if fraction.isEmpty then ['0'] else fraction)

/-- The digits with the point behind the first one and an exponent of at least two digits. -/
def scientific (ds : List Char) (exponent : Int) : List Char :=
  let power := Decimal.digits exponent.natAbs
  (match ds with
    | d :: d' :: rest => d :: '.' :: d' :: rest
    | _ => ds) ++
  'e' :: (if exponent < 0 then '-' else '+') :: (List.replicate (2 - power.length) '0' ++ power)

/-- A positive binary number: positional when its first digit stands no lower than the fourth place
behind the point and no higher than the sixteenth before it. -/
def unsignedChars (m : Nat) (q : Int) : List Char :=
  let (c, e) := shortest m q
  let point : Int := e + (Decimal.digits c).length
  let ds := significant (Decimal.digits c)
  if -4 < point && point ≤ 16 then positional ds point else scientific ds (point - 1)

/-- The written form of a binary number. -/
def text : Binary64 → String
  | infinite s => String.ofList (Decimal.signChars s ++ "inf".toList)
  | nan => "nan"
  | finite s m q =>
    String.ofList (Decimal.signChars s ++ (if m = 0 then "0.0".toList else unsignedChars m q))

end Binary64

end Lexis
