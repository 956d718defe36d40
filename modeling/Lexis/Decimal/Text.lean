import Lexis.Decimal.Basic
import Lexis.Text.CharClass
import Lexis.Text.Digit
import Lexis.Text.Space

/-!
# The written form of decimals

`Decimal.ofNumeral?` reads an unsigned numeral, digits with at most one point, and keeps its form:
the digits are the coefficient, and the exponent is minus the number of digits after the point.
`Decimal.parse?` reads every written form of a decimal, with sign, exponent and the special values.

`Decimal.chars` writes a decimal. A finite one is written positionally when its exponent is not
positive and its first digit stands no lower than the sixth place after the point; otherwise it has
one digit before the point and an exponent with its sign.
-/

namespace Lexis.Decimal

open CharClass

/-! ### Writing -/

/-- The sign of a negative decimal. -/
def signChars (negative : Bool) : List Char := if negative then ['-'] else []

/-- The digits `ds` with the point before the last `places` of them, and zeros in front as needed. -/
def positional (ds : List Char) (places : Nat) : List Char :=
  if places = 0 then ds
  else if places < ds.length then ds.take (ds.length - places) ++ '.' :: ds.drop (ds.length - places)
  else '0' :: '.' :: (List.replicate (places - ds.length) '0' ++ ds)

/-- The digits `ds` with the point after the first one and the exponent `adj`. -/
def scientific (ds : List Char) (adj : Int) : List Char :=
  (match ds with
    | d :: d' :: rest => d :: '.' :: d' :: rest
    | _ => ds) ++
  'E' :: (if adj < 0 then '-' else '+') :: digits adj.natAbs

/-- A finite decimal without its sign. -/
def unsignedChars (c : Nat) (e : Int) : List Char :=
  if e ≤ 0 && -6 ≤ adjusted c e then positional (digits c) (-e).toNat
  else scientific (digits c) (adjusted c e)

/-- The written form of a decimal. -/
def chars : Decimal → List Char
  | finite s c e => signChars s ++ unsignedChars c e
  | infinite s => signChars s ++ "Infinity".toList
  | nan s q p => signChars s ++ (if q then "sNaN" else "NaN").toList ++ (if p = 0 then [] else digits p)

/-- The written form of a decimal, as a string. -/
def text (d : Decimal) : String := String.ofList d.chars

/-! ### Reading -/

/-- The number that a run of digits spells; the empty run spells zero. -/
def valueOf (ds : List Char) : Nat := ds.foldl (fun n c => n * 10 + (c.toNat - '0'.toNat)) 0

/-- The finite decimal with the given digits before and after the point, if there is a digit. -/
def ofParts? (whole fraction : List Char) : Option Decimal :=
  if whole.isEmpty && fraction.isEmpty then none
  else some (finite false (valueOf (whole ++ fraction)) (-fraction.length))

/-- Reads an unsigned numeral: digits with at most one point, and at least one digit. -/
def ofNumeral? (cs : List Char) : Option Decimal :=
  match cs.dropWhile isDigit with
  | [] => ofParts? cs []
  | c :: fraction =>
    if c = '.' && fraction.all isDigit then ofParts? (cs.takeWhile isDigit) fraction else none

/-- Takes a sign off the front. -/
def splitSign : List Char → Bool × List Char
  | '-' :: rest => (true, rest)
  | '+' :: rest => (false, rest)
  | cs => (false, cs)

/-- Reads an exponent: an optional sign and at least one digit. -/
def exponent? (cs : List Char) : Option Int :=
  let (negative, ds) := splitSign cs
  if ds.isEmpty || !ds.all isDigit then none
  else some (if negative then -(valueOf ds : Int) else valueOf ds)

/-- Multiplies a finite decimal by a power of ten. -/
def shift (k : Int) : Decimal → Decimal
  | finite s c e => finite s c (e + k)
  | d => d

/-- Reads an unsigned finite decimal with an optional exponent, in lower case. -/
def finite? (cs : List Char) : Option Decimal :=
  match cs.dropWhile (· != 'e') with
  | [] => ofNumeral? cs
  | _ :: power => do
    let d ← ofNumeral? (cs.takeWhile (· != 'e'))
    let k ← exponent? power
    return d.shift k

/-- Reads what follows the letters of a NaN: its payload. -/
def payload? (ds : List Char) : Option Nat := if ds.all isDigit then some (valueOf ds) else none

/-- Reads an unsigned decimal in lower case. -/
def unsigned? : List Char → Option Decimal
  | ['i', 'n', 'f'] => some (infinite false)
  | ['i', 'n', 'f', 'i', 'n', 'i', 't', 'y'] => some (infinite false)
  | 'n' :: 'a' :: 'n' :: ds => (payload? ds).map (nan false false)
  | 's' :: 'n' :: 'a' :: 'n' :: ds => (payload? ds).map (nan false true)
  | cs => finite? cs

/-- The text of a decimal in plain form: without white space around it and underscores in it, in
lower case, and with ASCII digits. -/
def plainForm (t : List Char) : List Char :=
  ((Space.trim t).filter (· != '_')).map fun c => Digit.toAscii c.toLower

/-- Reads any written form of a decimal. Letters may have either case and digits be of any script;
white space around the text and underscores in it do not count. -/
def parse? (s : String) : Option Decimal :=
  let (negative, cs) := splitSign (plainForm s.toList)
  (unsigned? cs).map fun d => if negative then d.negate else d

/-- Why a text is no decimal: it has not the form of one, or its exponent lies out of range. -/
inductive ReadError
  | malformed | outOfRange
  deriving DecidableEq, Repr

/-- The error in words. -/
def ReadError.message : ReadError → String
  | .malformed => "[<class 'decimal.ConversionSyntax'>]"
  | .outOfRange => "[<class 'decimal.InvalidOperation'>]"

/-- The exponent of a finite decimal and the power of ten of its first digit lie in range. -/
def isInRange : Decimal → Bool
  | finite _ c e => -1999999999999999997 ≤ e && adjusted c e ≤ 999999999999999999
  | _ => true

/-- Reads any written form of a decimal whose exponent lies in range. -/
def read (s : String) : Except ReadError Decimal :=
  match parse? s with
  | none => .error .malformed
  | some d => if d.isInRange then .ok d else .error .outOfRange

end Lexis.Decimal
