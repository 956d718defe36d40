import Lexis.Text.Letter

/-!
# Character classes

The classes of characters that the lexical grammar is built from. Source text is Latin-1, so the
letters are those of Latin-1 and the digits are the ten ASCII ones. A class is a predicate on
characters; further down the same classes are read off a whole text, where the blanks and the digits
ask for a text of one character and the letters accept any run of letters.
-/

namespace Lexis.CharClass

/-- A blank separates tokens: space, tab to carriage return, and the four ASCII separators. -/
def isBlank (c : Char) : Bool :=
  let n := c.toNat
  n == 0x20 || (0x09 ≤ n && n ≤ 0x0D) || (0x1C ≤ n && n ≤ 0x1F)

/-- LF and CR end a line. -/
def isLineEnd (c : Char) : Bool := c == '\n' || c == '\r'

/-- An ASCII decimal digit. -/
def isDigit (c : Char) : Bool :=
  let n := c.toNat
  0x30 ≤ n && n ≤ 0x39

/-- A letter of Latin-1: the ASCII letters, the two ordinals, micro, and U+00C0 to U+00FF without
the multiplication and the division sign. -/
def isLetter (c : Char) : Bool :=
  let n := c.toNat
  (0x41 ≤ n && n ≤ 0x5A) || (0x61 ≤ n && n ≤ 0x7A) || n == 0xAA || n == 0xB5 || n == 0xBA ||
    (0xC0 ≤ n && n ≤ 0xFF && n != 0xD7 && n != 0xF7)

/-- A word opens with a letter or an underscore. -/
def isWordStart (c : Char) : Bool := isLetter c || c == '_'

/-- A word goes on with letters and digits; the underscore only opens one. -/
def isWordPart (c : Char) : Bool := isLetter c || isDigit c

/-- A sign that a number may carry. -/
def isSign (c : Char) : Bool := c == '+' || c == '-'

/-- A character of a numeral: a digit or the point. -/
def isNumeralPart (c : Char) : Bool := isDigit c || c == '.'

/-! ### The classes of a text -/

/-- The text is one character of the class `p`. -/
def isSingle (p : Char → Bool) : List Char → Bool
  | [c] => p c
  | _ => false

/-- The text is a run of one or more letters, be they in Latin-1 or beyond. -/
def isLetters (t : List Char) : Bool :=
  !t.isEmpty && t.all fun c => isLetter c || Letter.isBeyondLatin c

/-- The text may open a word: a run of letters, or one underscore. -/
def isWordStartText (t : List Char) : Bool := isLetters t || isSingle (· == '_') t

/-- The text may go on with a word: a run of letters, or one digit. -/
def isWordPartText (t : List Char) : Bool := isLetters t || isSingle isDigit t

/-! ### The classes do not overlap -/

theorem isDigit_eq_false_of_isLetter {c : Char} (h : isLetter c = true) : isDigit c = false := by
  simp only [isLetter, isDigit, Bool.or_eq_true, Bool.and_eq_true, decide_eq_true_eq, beq_iff_eq,
    bne_iff_ne, Bool.and_eq_false_iff, decide_eq_false_iff_not] at *
  omega

theorem isBlank_eq_false_of_isLetter {c : Char} (h : isLetter c = true) : isBlank c = false := by
  simp only [isLetter, isBlank, Bool.or_eq_true, Bool.and_eq_true, decide_eq_true_eq, beq_iff_eq,
    bne_iff_ne, Bool.or_eq_false_iff, Bool.and_eq_false_iff, decide_eq_false_iff_not,
    beq_eq_false_iff_ne] at *
  omega

theorem isBlank_eq_false_of_isDigit {c : Char} (h : isDigit c = true) : isBlank c = false := by
  simp only [isDigit, isBlank, Bool.and_eq_true, decide_eq_true_eq, Bool.or_eq_false_iff,
    Bool.and_eq_false_iff, decide_eq_false_iff_not, beq_eq_false_iff_ne] at *
  omega

end Lexis.CharClass
