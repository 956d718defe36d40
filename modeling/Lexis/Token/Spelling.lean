import Lexis.Text.CharClass
import Lexis.Token.Basic

/-!
# Spellings

The grammar of lexemes, as a relation between a text and the token that it spells. A token can have
several spellings: a number may carry a plus sign, a string a dollar sign, and a comment may be a
line comment or a block comment. The text of a block comment is cut from the left into delimiters and
single characters, and is balanced when the closing delimiter behind it is the first one that closes
more than was opened.
-/

namespace Lexis

open CharClass

/-! ### The text of block comments -/

/-- A piece of comment text: an opening delimiter, a closing one, or one other character. -/
inductive CommentUnit
  | opening
  | closing
  | single (c : Char)
  deriving DecidableEq, Repr

namespace CommentUnit

/-- Cuts a text into units. Where a delimiter stands it is one unit, and the cut goes on behind it. -/
def cut : List Char → List CommentUnit
  | '/' :: '*' :: rest => .opening :: cut rest
  | '*' :: '/' :: rest => .closing :: cut rest
  | c :: rest => .single c :: cut rest
  | [] => []

/-- The characters of a unit. -/
def chars : CommentUnit → List Char
  | .opening => ['/', '*']
  | .closing => ['*', '/']
  | .single c => [c]

/-- The units are the text, cut into pieces. -/
theorem flatMap_chars_cut (t : List Char) : (cut t).flatMap chars = t := by
  fun_induction cut t <;> simp_all [chars]

/-- No beginning of the units closes more than it opens. -/
def NeverCloses (us : List CommentUnit) : Prop :=
  ∀ vs, vs <+: us → vs.count .closing ≤ vs.count .opening

/-- The units close as much as they open, and never more on the way. -/
def IsBalanced (us : List CommentUnit) : Prop :=
  NeverCloses us ∧ us.count .opening = us.count .closing

end CommentUnit

/-- The text can stand in a block comment: behind it, the closing delimiter is a unit of its own and
closes the comment. -/
def IsCommentText (x : List Char) : Prop :=
  ∃ us, CommentUnit.cut (x ++ ['*', '/']) = us ++ [.closing] ∧ CommentUnit.IsBalanced us

/-! ### Numerals and words -/

/-- The text is a numeral of the given value: one or more digits, and perhaps a point with digits
behind it, which count as the fraction. -/
inductive Numeral : List Char → Decimal → Prop
  | whole {ds : List Char} : ds ≠ [] → (∀ c ∈ ds, isDigit c) →
      Numeral ds (.finite false (Decimal.valueOf ds) 0)
  | fractional {ds es : List Char} : ds ≠ [] → (∀ c ∈ ds, isDigit c) → (∀ c ∈ es, isDigit c) →
      Numeral (ds ++ '.' :: es) (.finite false (Decimal.valueOf (ds ++ es)) (-es.length))

/-- The decimal of a numeral behind a sign: negative only for a minus sign and a value other than
zero. -/
def signedValue (sign : List Char) (d : Decimal) : Decimal :=
  if sign = ['-'] ∧ d.isZero = false then d.negate else d

/-- The text has the shape of a word. -/
def IsWord (w : List Char) : Prop := ∃ c rest, w = c :: rest ∧ isWordStart c ∧ ∀ d ∈ rest, isWordPart d

/-- The text begins like a version. -/
def BeginsVersion (w : List Char) : Prop := ∃ c rest, w = 'v' :: c :: rest ∧ isDigit c

/-- The word is a truth value or a keyword. -/
def IsReserved (w : List Char) : Prop :=
  w = "true".toList ∨ w = "false".toList ∨ ∃ k : Keyword, w = k.lexeme.toList

/-! ### Lexemes -/

/-- The text is a spelling of the token. -/
inductive Spells : List Char → Token → Prop
  | trueWord : Spells "true".toList (.boolean true)
  | falseWord : Spells "false".toList (.boolean false)
  | keyword (k : Keyword) : Spells k.lexeme.toList (.keyword k)
  | identifier {w : List Char} : IsWord w → ¬IsReserved w → ¬BeginsVersion w →
      Spells w (.identifier (String.ofList w))
  | number {sign u : List Char} {d : Decimal} : sign ∈ [[], ['+'], ['-']] → Numeral u d →
      Spells (sign ++ u) (.number (signedValue sign d))
  | version {u : List Char} {d : Decimal} : Numeral u d → Spells ('v' :: u) (.version d)
  | string {x : List Char} : '"' ∉ x → Spells ('"' :: (x ++ ['"'])) (.string (String.ofList x))
  | dollarString {x : List Char} : '"' ∉ x →
      Spells ('$' :: '"' :: (x ++ ['"'])) (.string (String.ofList x))
  | char (c : Char) : Spells ['\'', c, '\''] (.char c)
  | lineComment {x : List Char} : '\n' ∉ x →
      Spells ('/' :: '/' :: x) (.comment (String.ofList x))
  | blockComment {x : List Char} : IsCommentText x →
      Spells ('/' :: '*' :: (x ++ ['*', '/'])) (.comment (String.ofList x))
  | operator (o : Operator) : Spells o.lexeme.toList (.operator o)

theorem Numeral.ne_nil {u : List Char} {d : Decimal} (h : Numeral u d) : u ≠ [] := by
  cases h with
  | whole hne _ => exact hne
  | fractional _ _ _ => simp

/-- Every spelling has a first character. -/
theorem Spells.ne_nil {l : List Char} {t : Token} (h : Spells l t) : l ≠ [] := by
  cases h with
  | keyword k => cases k <;> decide
  | operator o => cases o <;> decide
  | identifier hw _ _ =>
    obtain ⟨c, rest, rfl, _⟩ := hw
    simp
  | number _ hu => simp [hu.ne_nil]
  | _ => simp

end Lexis
