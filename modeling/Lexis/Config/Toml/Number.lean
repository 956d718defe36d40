import Lexis.Config.Toml.Value

/-!
# Numbers in TOML

Each function finds the longest text of its form at the front of a text, or nothing. Digits may be
grouped by single underscores between them. A number with a point or an exponent becomes the nearest
binary number.
-/

namespace Lexis.Toml.Number

/-- A decimal digit. -/
def isDecimal (c : Char) : Bool := '0' ≤ c && c ≤ '9'

/-- A hexadecimal digit. -/
def isHexadecimal (c : Char) : Bool :=
  isDecimal c || ('a' ≤ c && c ≤ 'f') || ('A' ≤ c && c ≤ 'F')

/-- The digits of the class `p` that go on after a first one, with single underscores in between. -/
def groupedRest (p : Char → Bool) : List Char → List Char
  | '_' :: c :: rest => if p c then '_' :: c :: groupedRest p rest else []
  | c :: rest => if p c then c :: groupedRest p rest else []
  | [] => []

/-- A group of digits of the class `p`; the empty list if there is none. -/
def grouped (p : Char → Bool) : List Char → List Char
  | c :: rest => if p c then c :: groupedRest p rest else []
  | [] => []

/-- The digits of an integer behind a base mark such as `0x`. -/
def based? (mark : Char) (p : Char → Bool) : List Char → Option (List Char)
  | '0' :: m :: rest =>
    let digits := grouped p rest
    if m = mark && !digits.isEmpty then some digits else none
  | _ => none

/-- An optional sign. -/
def signText : List Char → List Char
  | c :: _ => if c = '+' || c = '-' then [c] else []
  | [] => []

/-- A group of decimal digits without a zero in front, or a zero. -/
def wholeText : List Char → List Char
  | '0' :: _ => ['0']
  | cs => grouped isDecimal cs

/-- A point and a group of digits. -/
def fractionText : List Char → List Char
  | '.' :: rest =>
    let digits := grouped isDecimal rest
    if digits.isEmpty then [] else '.' :: digits
  | _ => []

/-- The mark of an exponent, an optional sign and a group of digits. -/
def exponentText : List Char → List Char
  | [] => []
  | e :: rest =>
    let sign := signText rest
    let digits := grouped isDecimal (rest.drop sign.length)
    if (e = 'e' || e = 'E') && !digits.isEmpty then e :: (sign ++ digits) else []

/-- The number that digits in some base spell. -/
def digitsValue (base : Nat) (digits : List Char) : Nat :=
  (digits.filter (· != '_')).foldl (fun n c =>
    let v := c.toNat
    let d := if v ≤ 0x39 then v - 0x30 else if v ≤ 0x46 then v - 0x41 + 10 else v - 0x61 + 10
    n * base + d) 0

/-- The integer with a base mark ahead, and the length of its text. -/
def baseInteger? (cs : List Char) : Option (Value × Nat) :=
  let found (base : Nat) (digits : List Char) : Value × Nat :=
    (.integer (digitsValue base digits), digits.length + 2)
  ((based? 'x' isHexadecimal cs).map (found 16)).or
    (((based? 'b' (fun c => c == '0' || c == '1') cs).map (found 2)).or
      ((based? 'o' (fun c => '0' ≤ c && c ≤ '7') cs).map (found 8)))

/-- The binary number that a text spells. -/
def real (text : List Char) : Value :=
  .real (((Decimal.parse? (String.ofList text)).map Binary64.ofDecimal).getD .nan)

/-- The decimal number ahead, and the length of its text. -/
def decimalNumber? (cs : List Char) : Option (Value × Nat) :=
  let sign := signText cs
  let whole := wholeText (cs.drop sign.length)
  if whole.isEmpty then none
  else
    let start := sign.length + whole.length
    let fraction := fractionText (cs.drop start)
    let exponent := exponentText (cs.drop (start + fraction.length))
    if fraction.isEmpty && exponent.isEmpty then
      let n : Int := digitsValue 10 whole
      some (.integer (if sign = ['-'] then -n else n), start)
    else
      let n := start + fraction.length + exponent.length
      some (real (cs.take n), n)

/-- The infinity or the NaN ahead, and the length of its text. -/
def special? (cs : List Char) : Option (Value × Nat) :=
  let n := (signText cs).length + 3
  let word := (cs.drop (signText cs).length).take 3
  if word = ['i', 'n', 'f'] || word = ['n', 'a', 'n'] then
    some (real (cs.take n), n)
  else none

/-- The number of digits of a decimal integer that has too many of them. An integer with a base mark
may have any number. -/
def excess? (v : Value) (written : List Char) : Option Nat :=
  let count := written.countP isDecimal
  match v with
  | .integer _ =>
    if mostDigits < count && (written.drop 1).all fun c => isDecimal c || c == '_' then some count
    else none
  | _ => none

/-- The number ahead. -/
def number? (cs : List Char) : Option (Value × Nat) :=
  (baseInteger? cs).or ((decimalNumber? cs).or (special? cs))

end Lexis.Toml.Number
