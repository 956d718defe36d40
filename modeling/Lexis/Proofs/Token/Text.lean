import Lexis.Proofs.Decimal.Injective
import Lexis.Proofs.Text.Quoted
import Lexis.Token.Text

/-! # The texts of tokens identify them

The names of the kinds are made of letters, and what follows a name in the text of a token opens with
no letter. So a text gives back its name, whatever the payload looks like, and with it the kind
(`Token.kind_eq_of_append_eq`). What follows the name gives back the payload: in the canonical text it
stands there as it is, and in the debugging text a payload that can hold any character is quoted
(`Token.text_injective`, `Token.debugText_injective`).

Behind a quoted payload, and behind all others but those of identifiers, no line can break. The lexer
makes identifiers of words only, so the debugging text of what it finds stands on one line
(`Token.isOneLine_debugText`). -/

namespace Lexis

open CharClass Run

namespace TokenKind

/-! ### Names of kinds -/

theorem mem_all (k : TokenKind) : k ∈ all := by
  cases k with
  | keyword w => cases w <;> decide
  | operator o => cases o <;> decide
  | _ => decide

/-- Every kind is found by its name. -/
theorem ofName?_name (k : TokenKind) : ofName? k.name = some k := by
  have table : ∀ k ∈ all, ofName? k.name = some k := by decide +kernel
  exact table k (mem_all k)

theorem name_injective {k k' : TokenKind} (h : k.name = k'.name) : k = k' := by
  have hfound := ofName?_name k
  rw [h, ofName?_name k'] at hfound
  exact (Option.some.inj hfound).symm

theorem isLetter_of_mem_name (k : TokenKind) : ∀ c ∈ k.name.toList, isLetter c = true := by
  have table : ∀ k ∈ all, k.name.toList.all isLetter = true := by decide +kernel
  exact List.all_eq_true.1 (table k (mem_all k))

end TokenKind

/-! ### Decimals on one line -/

namespace Decimal

theorem isOneLine_digits (n : Nat) : IsOneLine (digits n) :=
  .of_class (by decide) fun _ hc => isDigit_of_mem_digits hc

theorem isOneLine_signChars (negative : Bool) : IsOneLine (signChars negative) := by
  cases negative <;> decide

theorem isOneLine_power (adj : Int) : IsOneLine (power adj) := by
  have hsign : (if adj < 0 then '-' else '+') ∉ lineBreaks := by split_ifs <;> decide
  exact IsOneLine.cons_iff.2 ⟨by decide, IsOneLine.cons_iff.2 ⟨hsign, isOneLine_digits _⟩⟩

theorem isOneLine_unsignedChars (c : Nat) (e : Int) : IsOneLine (unsignedChars c e) := by
  obtain ⟨places, rest, heq, -, hrest⟩ := exists_unsignedChars_eq c e
  have hfront : IsOneLine (positional (digits c) places) :=
    .of_class (by decide) (Numeral.positional_digits c places).all_isNumeralPart
  rw [heq, IsOneLine.append_iff]
  refine ⟨hfront, ?_⟩
  rcases hrest with ⟨rfl, -⟩ | ⟨rfl, -⟩
  · exact .nil
  · exact isOneLine_power _

theorem isOneLine_payloadChars (p : Nat) : IsOneLine (payloadChars p) := by
  unfold payloadChars
  split_ifs
  · exact .nil
  · exact isOneLine_digits p

/-- The written form of a decimal stands on one line. -/
theorem isOneLine_text (d : Decimal) : IsOneLine d.text.toList := by
  have hbare : IsOneLine d.bareChars := by
    cases d with
    | finite s c e => exact isOneLine_unsignedChars c e
    | infinite s => exact (by decide : IsOneLine "Infinity".toList)
    | nan s q p =>
      have hletters : IsOneLine (if q then "sNaN" else "NaN").toList := by cases q <;> decide
      exact IsOneLine.append_iff.2 ⟨hletters, isOneLine_payloadChars p⟩
  rw [text, String.toList_ofList, chars_eq, IsOneLine.append_iff]
  exact ⟨isOneLine_signChars _, hbare⟩

end Decimal

namespace Token

variable {t u : Token}

/-! ### A kind and a payload -/

/-- A token has the kind and the payload that it was built from. -/
theorem kind_payload_of_make? {k : TokenKind} {v : Payload} (h : make? k v = .ok t) :
    t.kind = k ∧ t.payload = v := by
  unfold make? at h
  split at h
  case h_4 s =>
    -- the one kind that asks for more than the type of its payload
    unfold ofChars? at h
    split at h
    · rename_i c hc
      cases h
      exact ⟨rfl, congrArg Payload.text (String.toList_inj.1 (by rw [hc]; simp))⟩
    · cases h
  case h_11 =>
    split at h
    · cases h
    · split_ifs at h
  all_goals
    cases h
    exact ⟨rfl, rfl⟩

/-- Tokens of one kind are told apart by the payloads in their canonical texts. -/
theorem eq_of_payloadText?_eq (hkind : t.kind = u.kind) (h : t.payloadText? = u.payloadText?) :
    t = u := by
  cases t <;> cases u <;> cases hkind
  case boolean.boolean b b' =>
    have hword := Option.some.inj h
    cases b <;> cases b' <;> first | rfl | exact absurd hword (by decide)
  case char.char c c' =>
    have hchars := congrArg String.toList (Option.some.inj h)
    simp only [String.toList_singleton, List.cons.injEq, and_true] at hchars
    rw [hchars]
  case number.number d d' | version.version d d' =>
    rw [Decimal.text_injective (Option.some.inj h)]
  case keyword.keyword w | operator.operator o => rfl
  all_goals exact congrArg _ (Option.some.inj h)

/-! ### The canonical text -/

/-- What follows the name of the kind in the canonical text. -/
def textTail (t : Token) : List Char :=
  match t.payloadText? with
  | none => []
  | some p => ':' :: ' ' :: p.toList

theorem toList_text (t : Token) : t.text.toList = t.kind.name.toList ++ t.textTail := by
  unfold text textTail
  cases t.payloadText? with
  | none => simp
  | some p => simp

theorem endsBefore_textTail (t : Token) : EndsBefore isLetter t.textTail := by
  unfold textTail
  cases t.payloadText? with
  | none => exact endsBefore_nil
  | some p => exact endsBefore_cons.2 rfl

theorem payloadText?_eq_of_textTail_eq (h : t.textTail = u.textTail) :
    t.payloadText? = u.payloadText? := by
  unfold textTail at h
  cases ht : t.payloadText? with
  | none =>
    cases hu : u.payloadText? with
    | none => rfl
    | some p' =>
      rw [ht, hu] at h
      cases h
  | some p =>
    cases hu : u.payloadText? with
    | none =>
      rw [ht, hu] at h
      cases h
    | some p' =>
      rw [ht, hu] at h
      injection h with _ h
      injection h with _ h
      rw [String.toList_inj.1 h]

/-- **A text gives back the kind**: its name ends where the letters end. -/
theorem kind_eq_of_append_eq {a b : List Char} (ha : EndsBefore isLetter a)
    (hb : EndsBefore isLetter b) (h : t.kind.name.toList ++ a = u.kind.name.toList ++ b) :
    t.kind = u.kind ∧ a = b := by
  obtain ⟨hname, htail⟩ := eq_of_append_eq t.kind.isLetter_of_mem_name u.kind.isLetter_of_mem_name
    ha hb h
  exact ⟨TokenKind.name_injective (String.toList_inj.1 hname), htail⟩

/-- **The canonical text identifies the token.** -/
theorem text_injective (h : t.text = u.text) : t = u := by
  have hchars := congrArg String.toList h
  rw [toList_text, toList_text] at hchars
  obtain ⟨hkind, htail⟩ :=
    kind_eq_of_append_eq (endsBefore_textTail t) (endsBefore_textTail u) hchars
  exact eq_of_payloadText?_eq hkind (payloadText?_eq_of_textTail_eq htail)

/-! ### The debugging text -/

/-- What follows the name of the kind in the debugging text. -/
def debugTail (t : Token) : List Char :=
  match t.quotable? with
  | some s => '(' :: (Quoted.encode s.toList ++ [')'])
  | none => t.textTail

theorem toList_debugText (t : Token) : t.debugText.toList = t.kind.name.toList ++ t.debugTail := by
  unfold debugText debugTail
  cases t.quotable? with
  | none => exact toList_text t
  | some s => simp [Quoted.quote]

theorem endsBefore_debugTail (t : Token) : EndsBefore isLetter t.debugTail := by
  unfold debugTail
  cases t.quotable? with
  | none => exact endsBefore_textTail t
  | some s => exact endsBefore_cons.2 rfl

/-- What is quoted is the payload. -/
theorem payloadText?_of_quotable? {s : String} (h : t.quotable? = some s) :
    t.payloadText? = some s := by
  cases t <;> first | exact h | cases h

theorem textTail_of_quotable? {p : String} (h : t.quotable? = some p) :
    t.textTail = ':' :: ' ' :: p.toList := by
  rw [textTail, payloadText?_of_quotable? h]

theorem textTail_ne_paren (t : Token) (rest : List Char) : t.textTail ≠ '(' :: rest := by
  unfold textTail
  cases t.payloadText? with
  | none =>
    intro h
    cases h
  | some p =>
    intro h
    injection h with h
    exact absurd h (by decide)

theorem payloadText?_eq_of_debugTail_eq (h : t.debugTail = u.debugTail) :
    t.payloadText? = u.payloadText? := by
  unfold debugTail at h
  cases ht : t.quotable? with
  | none =>
    cases hu : u.quotable? with
    | none =>
      rw [ht, hu] at h
      exact payloadText?_eq_of_textTail_eq h
    | some s' =>
      rw [ht, hu] at h
      exact absurd h (textTail_ne_paren t _)
  | some s =>
    cases hu : u.quotable? with
    | none =>
      rw [ht, hu] at h
      exact absurd h.symm (textTail_ne_paren u _)
    | some s' =>
      rw [ht, hu] at h
      injection h with _ h
      have hquoted := Quoted.encode_injective (List.append_cancel_right h)
      rw [payloadText?_of_quotable? ht, payloadText?_of_quotable? hu, String.toList_inj.1 hquoted]

/-- **The debugging text identifies the token.** -/
theorem debugText_injective (h : t.debugText = u.debugText) : t = u := by
  have hchars := congrArg String.toList h
  rw [toList_debugText, toList_debugText] at hchars
  obtain ⟨hkind, htail⟩ :=
    kind_eq_of_append_eq (endsBefore_debugTail t) (endsBefore_debugTail u) hchars
  exact eq_of_payloadText?_eq hkind (payloadText?_eq_of_debugTail_eq htail)

/-! ### One line -/

theorem isOneLine_name (k : TokenKind) : IsOneLine k.name.toList :=
  .of_class (by decide) k.isLetter_of_mem_name

theorem isOneLine_identifier {l : List Char} {name : String} (h : Spells l (.identifier name)) :
    IsOneLine name.toList := by
  cases h with
  | identifier hword _ _ =>
    obtain ⟨c, rest, rfl, hc, hrest⟩ := hword
    have hopen : IsOneLine [c] := .of_class (p := isWordStart) (by decide) (by simpa using hc)
    rw [String.toList_ofList]
    exact IsOneLine.append_iff.2 ⟨hopen, .of_class (by decide) hrest⟩

/-- A payload that is not quoted breaks no line, if the token has a spelling. -/
theorem isOneLine_payloadText {l : List Char} {p : String} (hspells : Spells l t)
    (hquotable : t.quotable? = none) (hp : t.payloadText? = some p) : IsOneLine p.toList := by
  cases t with
  | boolean b =>
    cases hp
    cases b <;> decide
  | identifier name =>
    cases hp
    exact isOneLine_identifier hspells
  | number d | version d =>
    cases hp
    exact d.isOneLine_text
  | keyword w | operator o => cases hp
  | char c | comment s | interpolated s | string s => cases hquotable

theorem isOneLine_textTail {l : List Char} (hspells : Spells l t) (hquotable : t.quotable? = none) :
    IsOneLine t.textTail := by
  unfold textTail
  cases hp : t.payloadText? with
  | none => exact .nil
  | some p =>
    have hpayload := isOneLine_payloadText hspells hquotable hp
    exact IsOneLine.cons_iff.2 ⟨by decide, IsOneLine.cons_iff.2 ⟨by decide, hpayload⟩⟩

/-- Only the payloads of characters, comments and strings can break the canonical text. -/
theorem isOneLine_text {l : List Char} (hspells : Spells l t) (hquotable : t.quotable? = none) :
    IsOneLine t.text.toList := by
  rw [toList_text, IsOneLine.append_iff]
  exact ⟨isOneLine_name _, isOneLine_textTail hspells hquotable⟩

/-- The token is a character, a comment or a string with a line feed in it. -/
def HasLineFeed (t : Token) : Prop := ∃ p ∈ t.quotable?, '\n' ∈ p.toList

instance : DecidablePred HasLineFeed := fun t =>
  inferInstanceAs (Decidable (∃ p ∈ t.quotable?, '\n' ∈ p.toList))

/-- **The canonical text breaks at the line feeds of such a payload**, and at no others. -/
theorem lineFeed_mem_text_iff {l : List Char} (hspells : Spells l t) :
    '\n' ∈ t.text.toList ↔ t.HasLineFeed := by
  rw [toList_text]
  constructor
  · intro h
    have hname : '\n' ∉ t.kind.name.toList := (isOneLine_name _).lineFeed_notMem
    have htail := (List.mem_append.1 h).resolve_left hname
    cases hq : t.quotable? with
    | none => exact absurd htail (isOneLine_textTail hspells hq).lineFeed_notMem
    | some p =>
      rw [textTail_of_quotable? hq] at htail
      exact ⟨p, hq, by simpa using htail⟩
  · rintro ⟨p, hp, hmem⟩
    rw [textTail_of_quotable? hp]
    exact List.mem_append_right _ (List.mem_cons_of_mem _ (List.mem_cons_of_mem _ hmem))

/-- **The debugging text of a token with a spelling stands on one line.** -/
theorem isOneLine_debugText {l : List Char} (hspells : Spells l t) :
    IsOneLine t.debugText.toList := by
  have htail : IsOneLine t.debugTail := by
    unfold debugTail
    cases hq : t.quotable? with
    | none => exact isOneLine_textTail hspells hq
    | some s =>
      have hquoted := Quoted.isOneLine_encode s.toList
      have hclose : IsOneLine [')'] := IsOneLine.cons_iff.2 ⟨by decide, .nil⟩
      exact IsOneLine.cons_iff.2 ⟨by decide, IsOneLine.append_iff.2 ⟨hquoted, hclose⟩⟩
  rw [toList_debugText, IsOneLine.append_iff]
  exact ⟨isOneLine_name _, htail⟩

/-! ### Kinds and payloads -/

/-- **The canonical text identifies the kind and the payload.** Two tokens that were built from a kind
and a payload each have the same canonical text only if the kinds and the payloads are the same, and
decimals the same in sign, coefficient and exponent. No payload is excluded: texts may hold colons,
line ends and names of kinds. -/
theorem text_eq_text_iff {k k' : TokenKind} {v v' : Payload} {t t' : Token}
    (h : make? k v = .ok t) (h' : make? k' v' = .ok t') :
    t.text = t'.text ↔ k = k' ∧ v = v' := by
  obtain ⟨rfl, rfl⟩ := kind_payload_of_make? h
  obtain ⟨rfl, rfl⟩ := kind_payload_of_make? h'
  constructor
  · intro htext
    rw [text_injective htext]
    exact ⟨rfl, rfl⟩
  · rintro ⟨hkind, hpayload⟩
    rw [hkind, hpayload, make?_kind_payload] at h
    rw [Except.ok.inj h]

/-- Two forms of one value, a text that repeats the name of its kind, and a text that reads like the
canonical text of another token. -/
theorem text_eq_text_iff_of_lookalikes :
    make? .number (.decimal (.finite false 1 5)) = .ok (.number (.finite false 1 5)) ∧
      make? .number (.decimal (.finite false 100000 0)) = .ok (.number (.finite false 100000 0)) ∧
      Decimal.sameValue (.finite false 1 5) (.finite false 100000 0) = true ∧
      (Token.number (.finite false 1 5)).text ≠ (Token.number (.finite false 100000 0)).text ∧
      (Token.comment "Comment: x").text ≠ (Token.comment "x").text ∧
      (Token.string "x\nIdentifier: y").text ≠ (Token.identifier "y").text := by
  have hone : make? .number (.decimal (.finite false 1 5)) = .ok (.number (.finite false 1 5)) := rfl
  have hmany : make? .number (.decimal (.finite false 100000 0)) =
      .ok (.number (.finite false 100000 0)) := rfl
  have hlong : make? .comment (.text "Comment: x") = .ok (.comment "Comment: x") := rfl
  have hshort : make? .comment (.text "x") = .ok (.comment "x") := rfl
  have hstring : make? .string (.text "x\nIdentifier: y") = .ok (.string "x\nIdentifier: y") := rfl
  have hword : make? .identifier (.text "y") = .ok (.identifier "y") := rfl
  refine ⟨hone, hmany, by decide, fun h => ?_, fun h => ?_, fun h => ?_⟩
  · exact absurd ((text_eq_text_iff hone hmany).1 h).2 (by decide)
  · exact absurd ((text_eq_text_iff hlong hshort).1 h).2 (by decide)
  · exact absurd ((text_eq_text_iff hstring hword).1 h).1 (by decide)

end Token

end Lexis
