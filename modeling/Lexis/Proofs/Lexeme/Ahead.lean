import Lexis.Lexeme.Form

/-! # Scans as functions of the text ahead

On a stream over a text a scan depends on nothing but the characters ahead. This module says what
each scan comes to as a function of that text (`Ahead.lexeme` for one lexeme, `Ahead.token` for one
token behind its blanks). The runs of a class become `takeWhile` and `dropWhile`; the two scans for
a closing delimiter recurse on the text. That the scans do come to these outcomes is proved in
`Lexis.Proofs.Lexeme.Simulation`.

A place in the text is given by the text that begins there. -/

namespace Lexis

open CharClass

/-- What a scan of a text comes to: a value and the text behind it, or a failure with the text that
begins at its place and the text that is left. -/
inductive Scanned (α : Type)
  | found (value : α) (rest : List Char)
  | failed (cause : Cause) (place rest : List Char)

namespace Scanned

variable {α β : Type}

/-- Goes on behind what was found. -/
def bind (o : Scanned α) (f : α → List Char → Scanned β) : Scanned β :=
  match o with
  | found a rest => f a rest
  | failed cause place rest => failed cause place rest

/-- Changes the value that was found. -/
def map (f : α → β) (o : Scanned α) : Scanned β := o.bind fun a rest => found (f a) rest

@[simp] theorem bind_found (a : α) (rest : List Char) (f : α → List Char → Scanned β) :
    (found a rest).bind f = f a rest := rfl

@[simp] theorem bind_failed (cause : Cause) (place rest : List Char)
    (f : α → List Char → Scanned β) :
    (failed cause place rest).bind f = failed cause place rest := rfl

@[simp] theorem map_found (f : α → β) (a : α) (rest : List Char) :
    (found a rest).map f = found (f a) rest := rfl

@[simp] theorem map_failed (f : α → β) (cause : Cause) (place rest : List Char) :
    (failed cause place rest : Scanned α).map f = failed cause place rest := rfl

theorem map_map {γ : Type} (f : α → β) (g : β → γ) (o : Scanned α) :
    (o.map f).map g = o.map fun a => g (f a) := by
  cases o <;> rfl

theorem map_eq_found_iff {f : α → β} {o : Scanned α} {b : β} {rest : List Char} :
    o.map f = found b rest ↔ ∃ a, o = found a rest ∧ f a = b := by
  cases o with
  | found a rest' =>
    rw [map_found]
    constructor
    · intro h
      injection h with hb hrest
      exact ⟨a, by rw [hrest], hb⟩
    · rintro ⟨a', h, rfl⟩
      injection h with ha hrest
      rw [ha, hrest]
  | failed cause place rest' => simp

theorem map_eq_failed_iff {f : α → β} {o : Scanned α} {cause : Cause} {place rest : List Char} :
    o.map f = failed cause place rest ↔ o = failed cause place rest := by
  cases o <;> simp

end Scanned

namespace Ahead

/-! ### Words and numerals -/

/-- A word that opens with `c`. -/
def word (c : Char) (rest : List Char) : Scanned (Option Token) :=
  .found (some (Token.ofWord (String.ofList (c :: rest.takeWhile isWordPart))))
    (rest.dropWhile isWordPart)

/-- A numeral, which is read whole before it is judged. -/
def numeral : List Char → Scanned (Option Decimal)
  | [] => .found none []
  | c :: rest =>
    match Decimal.ofNumeral? (c :: rest.takeWhile isNumeralPart) with
    | some d => .found (some d) (rest.dropWhile isNumeralPart)
    | none =>
      .failed (.malformedNumber (c :: rest.takeWhile isNumeralPart)) (c :: rest)
        (rest.dropWhile isNumeralPart)

/-- A number that opens with `c`, a sign or a character of the numeral. -/
def number (c : Char) (rest : List Char) : Scanned (Option Token) :=
  if isSign c then (numeral rest).map (Option.map fun d => .number (Scan.signed (some c) d))
  else (numeral (c :: rest)).map (Option.map fun d => .number (Scan.signed none d))

/-- A version behind its letter. -/
def version (rest : List Char) : Scanned (Option Token) := (numeral rest).map (Option.map .version)

/-! ### Strings, characters and comments -/

/-- The text up to the next double quote, which is consumed too. -/
def quoted : List Char → Option (List Char) × List Char
  | [] => (none, [])
  | c :: rest =>
    if c = '"' then (some [], rest)
    else
      let (text, behind) := quoted rest
      (text.map (c :: ·), behind)

/-- A string behind its opening quote. -/
def string (t : List Char) : Scanned (Option Token) :=
  let (text, behind) := quoted t
  .found (text.map fun x => .string (String.ofList x)) behind

/-- A string behind its dollar sign. -/
def interpolated : List Char → Scanned (Option Token)
  | '"' :: rest => string rest
  | t => .found none t

/-- A character literal behind its opening apostrophe. -/
def charLiteral : List Char → Scanned (Option Token)
  | c :: d :: rest => .found (if d = '\'' then some (.char c) else none) rest
  | _ => .found none []

/-- A line comment behind its two slashes. -/
def lineComment (t : List Char) : Scanned (Option Token) :=
  .found (some (.comment (String.ofList (t.takeWhile (· != '\n'))))) (t.dropWhile (· != '\n'))

/-- The text of a block comment inside which `depth` others are open. A single character at the end
of the text is left. -/
def commentText : Nat → List Char → Option (List Char) × List Char
  | depth, '/' :: '*' :: rest =>
    let (text, behind) := commentText (depth + 1) rest
    (text.map ('/' :: '*' :: ·), behind)
  | 0, '*' :: '/' :: rest => (some [], rest)
  | depth + 1, '*' :: '/' :: rest =>
    let (text, behind) := commentText depth rest
    (text.map ('*' :: '/' :: ·), behind)
  | depth, c :: d :: rest =>
    let (text, behind) := commentText depth (d :: rest)
    (text.map (c :: ·), behind)
  | _, t => (none, t)

theorem commentText_singleton (depth : Nat) (c : Char) : commentText depth [c] = (none, [c]) := by
  simp [commentText]

theorem commentText_cons_cons {depth : Nat} {c d : Char} {rest : List Char}
    (ho : c = '/' → d = '*' → False) (hc : c = '*' → d = '/' → False) :
    commentText depth (c :: d :: rest) =
      ((commentText depth (d :: rest)).1.map (c :: ·), (commentText depth (d :: rest)).2) := by
  rw [commentText.eq_4 depth c d rest ho (fun _ => hc) (fun _ _ => hc)]

/-- A block comment behind its opening delimiter. -/
def blockComment (t : List Char) : Scanned (Option Token) :=
  let (text, behind) := commentText 0 t
  .found (text.map fun x => .comment (String.ofList x)) behind

/-! ### Operators -/

/-- An operator that opens with `c`. -/
def sign (c : Char) (rest : List Char) : Scanned (Option Token) :=
  match Operator.single? c with
  | none => .failed (.unknownOperator c) (c :: rest) rest
  | some short =>
    match rest.head?.bind (Operator.pair? c) with
    | some long => .found (some (.operator long)) rest.tail
    | none => .found (some (.operator short)) rest

/-! ### Lexemes and tokens -/

/-- A lexeme of a known form that opens with `c`. -/
def lexemeOf (c : Char) (rest : List Char) : Form → Scanned (Option Token)
  | .version => version rest
  | .word => word c rest
  | .string => string rest
  | .interpolated => interpolated rest
  | .charLiteral => charLiteral rest
  | .number => number c rest
  | .blockComment => blockComment rest.tail
  | .lineComment => lineComment rest.tail
  | .sign => sign c rest

/-- One lexeme; none if the text ends before it is whole. -/
def lexeme : List Char → Scanned (Option Token)
  | [] => .found none []
  | c :: rest => lexemeOf c rest (Form.ofChars c rest.head?)

/-- The text behind the blanks. -/
def behindBlanks (t : List Char) : List Char := t.dropWhile isBlank

/-- The token that begins here, where no blank stands. -/
def whole (t : List Char) : Scanned Token :=
  (lexeme t).bind fun
    | some token, rest => .found token rest
    | none, rest => .failed .noToken t rest

/-- The next token behind the blanks. -/
def token (t : List Char) : Scanned Token := whole (behindBlanks t)

/-- The next token and the text that begins with it, if anything follows the blanks. -/
def positioned? (t : List Char) : Scanned (Option (List Char × Token)) :=
  match behindBlanks t with
  | [] => .found none []
  | c :: rest => (whole (c :: rest)).map fun token => some (c :: rest, token)

end Ahead

end Lexis
