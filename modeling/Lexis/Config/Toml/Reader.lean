import Lexis.Config.Toml.Fault

/-!
# Reading TOML: characters, keys and strings

A reader consumes characters from the front of a text, or stops with a problem. The number of
characters that are left tells where in the document it stands.
-/

namespace Lexis.Toml

/-- A reader of the text ahead. -/
abbrev Reader := StateT (List Char) (Except Problem)

namespace Reader

/-- Stops with a fault at the present place. -/
def fail {α : Type} (fault : Fault) : Reader α := fun cs => .error ⟨fault, cs.length⟩

/-- Stops with a fault at the place before `n` characters that are left. -/
def failAt {α : Type} (n : Nat) (fault : Fault) : Reader α := fun _ => .error ⟨fault, n⟩

/-- The next character, not consumed. -/
def peek : Reader (Option Char) := return (← get).head?

/-- Consumes `n` characters. -/
def skip (n : Nat) : Reader Unit := modify (·.drop n)

/-- The text ahead begins with `s`. -/
def isAhead (s : String) : Reader Bool := return s.toList.isPrefixOf (← get)

/-- Consumes the characters of the class `p`. -/
def takeWhile (p : Char → Bool) : Reader (List Char) := do
  let cs ← get
  set (cs.dropWhile p)
  return cs.takeWhile p

/-- A blank inside a line. -/
def isBlank (c : Char) : Bool := c == ' ' || c == '\t'

/-- Consumes blanks. -/
def skipBlanks : Reader Unit := discard (takeWhile isBlank)

/-- A control character other than tab, which a text may not hold as it is. -/
def isControl (c : Char) : Bool := (c.toNat < 0x20 && c != '\t') || c.toNat == 0x7F

/-- A control character that a text of several lines may not hold as it is. -/
def isControlInLines (c : Char) : Bool := isControl c && c != '\n'

/-- Stops at the first character of the class `p` among the next `n`. -/
def refuse (p : Char → Bool) (n : Nat) : Reader Unit := do
  let cs ← get
  match (cs.take n).dropWhile (!p ·) with
  | [] => return ()
  | c :: _ => failAt (cs.length - ((cs.take n).takeWhile (!p ·)).length) (.invalidCharacter c)

/-- Consumes a comment, if one is ahead. -/
def skipComment : Reader Unit := do
  if (← peek) = some '#' then
    skip 1
    let n := ((← get).takeWhile (· != '\n')).length
    refuse isControl n
    skip n

/-- Consumes blanks, line ends and comments; a bound on their number comes first. -/
def skipLines : Nat → Reader Unit
  | 0 => return ()
  | bound + 1 => do
    let before := (← get).length
    discard (takeWhile fun c => isBlank c || c == '\n')
    skipComment
    if (← get).length < before then skipLines bound

/-! ### Strings -/

/-- The number of characters before the first place where `d` stands, if there is one. -/
def distance? (d : List Char) : List Char → Option Nat
  | [] => if d.isEmpty then some 0 else none
  | c :: cs => if d.isPrefixOf (c :: cs) then some 0 else (distance? d cs).map (· + 1)

/-- Reads up to the delimiter `d` and consumes it. Characters of the class `p` are refused. -/
def upTo (d : String) (p : Char → Bool) : Reader String := do
  let cs ← get
  match distance? d.toList cs with
  | none => failAt 0 (.delimiterMissing d)
  | some n =>
    refuse p n
    skip (n + d.length)
    return String.ofList (cs.take n)

/-- The value of a hexadecimal digit. -/
def hexValue? (c : Char) : Option Nat :=
  let n := c.toNat
  if 0x30 ≤ n && n ≤ 0x39 then some (n - 0x30)
  else if 0x41 ≤ n && n ≤ 0x46 then some (n - 0x41 + 10)
  else if 0x61 ≤ n && n ≤ 0x66 then some (n - 0x61 + 10)
  else none

/-- Reads the character that `width` hexadecimal digits number. -/
def numbered (width : Nat) : Reader Char := do
  let digits := ((← get).take width).map hexValue?
  if digits.length < width || digits.any (·.isNone) then fail .invalidHex
  else
    let n := digits.foldl (fun n d => n * 16 + d.getD 0) 0
    skip width
    if n.isValidChar then return Char.ofNat n else fail .notScalar

/-- Reads an escape in a string of one line. -/
def escape : Reader Char := do
  let second := ((← get).drop 1).head?
  skip 2
  match second with
  | some 'b' => return '\x08'
  | some 't' => return '\t'
  | some 'n' => return '\n'
  | some 'f' => return '\x0c'
  | some 'r' => return '\r'
  | some '"' => return '"'
  | some '\\' => return '\\'
  | some 'u' => numbered 4
  | some 'U' => numbered 8
  | _ => fail .invalidEscape

/-- Reads an escape in a string of several lines. A backslash before a line end, with blanks between
them, takes away the white space up to the next character. -/
def escapeInLines : Reader (List Char) := do
  match ((← get).drop 1).head? with
  | some '\n' => dropSpace
  | some ' ' | some '\t' =>
    skip 1
    skipBlanks
    match ← peek with
    | none => return []
    | some '\n' => dropSpace
    | some _ => fail .invalidEscape
  | _ => return [← escape]
where
  /-- Consumes a character and the white space behind it. -/
  dropSpace : Reader (List Char) := do
    skip 1
    discard (takeWhile fun c => isBlank c || c == '\n')
    return []

/-- Reads the rest of a string in double quotes; the bound comes first. -/
def basicRest (lines : Bool) : Nat → Reader (List Char)
  | 0 => fail .stringNotEnded
  | bound + 1 => do
    match ← peek with
    | none => fail .stringNotEnded
    | some '"' =>
      if !lines then
        skip 1
        return []
      else if ← isAhead "\"\"\"" then
        skip 3
        return []
      else
        skip 1
        return '"' :: (← basicRest lines bound)
    | some '\\' =>
      let cs ← if lines then escapeInLines else List.singleton <$> escape
      return cs ++ (← basicRest lines bound)
    | some c =>
      if (if lines then isControlInLines c else isControl c) then fail (.illegalCharacter c)
      else
        skip 1
        return c :: (← basicRest lines bound)

/-- Reads a string in double quotes. -/
def basic : Reader String := do
  skip 1
  return String.ofList (← basicRest false ((← get).length + 1))

/-- Reads a string in apostrophes. -/
def verbatim : Reader String := do
  skip 1
  upTo "'" isControl

/-- Reads up to two more marks, which belong to the string before its closing three. -/
def trailing (mark : Char) : Reader String := do
  let marks := ((← get).take 2).takeWhile (· == mark)
  skip marks.length
  return String.ofList marks

/-- Reads a string of several lines. A line end right after the opening marks does not count. -/
def multiline (mark : Char) : Reader String := do
  skip 3
  if (← peek) = some '\n' then skip 1
  let body ←
    if mark = '"' then String.ofList <$> basicRest true ((← get).length + 1)
    else upTo "'''" isControlInLines
  return body ++ (← trailing mark)

/-! ### Keys -/

/-- A character of a bare key. -/
def isBare (c : Char) : Bool :=
  c.isAlpha || c.isDigit || c == '-' || c == '_'

/-- Reads one part of a key. -/
def keyPart : Reader String := do
  match ← peek with
  | some '\'' => verbatim
  | some '"' => basic
  | some c => if isBare c then return String.ofList (← takeWhile isBare) else fail .invalidKeyStart
  | none => fail .invalidKeyStart

/-- Reads the parts of a key after the first; the bound comes first. -/
def keyRest : Nat → Reader Key
  | 0 => return []
  | bound + 1 => do
    skipBlanks
    if (← peek) = some '.' then
      skip 1
      skipBlanks
      let part ← keyPart
      return part :: (← keyRest bound)
    else return []

/-- Reads a key and the blanks behind it. -/
def key : Reader Key := do
  let part ← keyPart
  return part :: (← keyRest ((← get).length + 1))

end Reader

end Lexis.Toml
