import Lexis.Proofs.Lexeme.Comment
import Lexis.Proofs.Lexeme.Numeral

/-! # Lexemes and their spellings

The lexeme that is found at the front of a text is a spelling of its token, and it is whole: it does
not go on with the character behind it (`goesOn`). Conversely every spelling of a token is found where
it stands in front of a text with which it does not go on. So the scan of a lexeme is described by
the grammar alone (`Ahead.lexeme_eq_found_some_iff`), and what follows a lexeme matters only by its
first character. -/

namespace Lexis

open CharClass Run

/-- A lexeme of the form `f`, made of `c` and `w`, goes on with the character `d`. -/
def Form.goesOn (f : Form) (c : Char) (w : List Char) (d : Char) : Bool :=
  match f with
  | .version | .number => isNumeralPart d
  | .word => isWordPart d
  | .lineComment => d != '\n'
  | .sign => w.isEmpty && (ofChars c (some d) != .sign || (Operator.pair? c d).isSome)
  | .string | .interpolated | .charLiteral | .blockComment => false

/-- The lexeme goes on with the character `d`: the two together begin a longer lexeme, or a lexeme of
another form. -/
def goesOn : List Char → Char → Bool
  | [], _ => false
  | c :: w, d => (Form.ofChars c w.head?).goesOn c w d

/-- The token stands at the front of the text: a spelling of it that does not go on with `rest`. -/
def StandsBefore (t : List Char) (token : Token) (rest : List Char) : Prop :=
  ∃ l, t = l ++ rest ∧ Spells l token ∧ EndsBefore (goesOn l) rest

/-- At the end of a text every spelling is whole. -/
theorem Spells.standsBefore_nil {l : List Char} {t : Token} (h : Spells l t) :
    StandsBefore l t [] :=
  ⟨l, (List.append_nil l).symm, h, endsBefore_nil⟩

/-! ### Blanks behind a lexeme -/

/-- An operator is made of no blanks. -/
theorem Operator.isBlank_eq_false (o : Operator) {c : Char} (hc : c ∈ o.lexeme.toList) :
    isBlank c = false := by
  have hall : o.lexeme.toList.all (fun d => !isBlank d) = true := by cases o <;> decide
  simpa using List.all_eq_true.1 hall c hc

/-- A blank makes no difference to what a lone character opens. -/
theorem Form.ofChars_eq_sign_of_isBlank {c d : Char} (hd : isBlank d = true)
    (h : ofChars c none = .sign) : ofChars c (some d) = .sign := by
  have hdigit : isDigit d = false := eq_false_comm isBlank_eq_false_of_isDigit hd
  obtain ⟨hw, h3, h4, h5, hc, -, -⟩ := ofChars_eq_iff.1 h
  refine ofChars_eq_iff.2 ⟨hw, h3, h4, h5, hc, by simp [hdigit], ?_⟩
  rintro ⟨-, ho | ho⟩
  · rw [Option.some.inj ho] at hd
    exact absurd hd (by decide)
  · rw [Option.some.inj ho] at hd
    exact absurd hd (by decide)

/-- **A blank ends every lexeme**, except that only LF ends a line comment. -/
theorem goesOn_eq_false_of_isBlank {l : List Char} {d : Char} (hd : isBlank d = true)
    (hline : ['/', '/'] <+: l → d = '\n') : goesOn l d = false := by
  cases l with
  | nil => rfl
  | cons c w =>
    rw [goesOn]
    cases hf : Form.ofChars c w.head? with
    | version => exact eq_false_comm isBlank_eq_false_of_isNumeralPart hd
    | number => exact eq_false_comm isBlank_eq_false_of_isNumeralPart hd
    | word => exact eq_false_comm isBlank_eq_false_of_isWordPart hd
    | lineComment =>
      obtain ⟨rfl, hw⟩ := Form.ofChars_eq_iff.1 hf
      obtain ⟨w, rfl⟩ := List.head?_eq_some_iff.1 hw
      rw [hline ⟨w, rfl⟩]
      rfl
    | sign =>
      have hpair : Operator.pair? c d = none := by
        cases hp : Operator.pair? c d with
        | none => rfl
        | some o =>
          have hblank := o.isBlank_eq_false (c := d) (by simp [Operator.lexeme_of_pair? hp])
          rw [hblank] at hd
          cases hd
      have hform := Form.ofChars_eq_sign_of_isBlank hd (Form.ofChars_none_eq_sign hf)
      simp [Form.goesOn, hform, hpair]
    | _ => rfl

/-- The same for a text that goes on with a blank, if at all. -/
theorem endsBefore_goesOn {l rest : List Char} (hblank : ∀ d ∈ rest.head?, isBlank d = true)
    (hline : ['/', '/'] <+: l → ∀ d ∈ rest.head?, d = '\n') : EndsBefore (goesOn l) rest :=
  fun d hd => goesOn_eq_false_of_isBlank (hblank d hd) fun hl => hline hl d hd

/-! ### Words -/

instance (w : List Char) : Decidable (IsWord w) :=
  decidable_of_iff (w.head?.any isWordStart = true ∧ w.tail.all isWordPart = true) <| by
    cases w with
    | nil => simp [IsWord]
    | cons c rest => simp [IsWord]

instance (w : List Char) : Decidable (BeginsVersion w) :=
  decidable_of_iff (w.head? = some 'v' ∧ w.tail.head?.any isDigit = true) <| by
    match w with
    | [] => simp [BeginsVersion]
    | [c] => simp [BeginsVersion]
    | c :: d :: rest => simp [BeginsVersion]

theorem Keyword.isWord_lexeme (k : Keyword) :
    IsWord k.lexeme.toList ∧ ¬BeginsVersion k.lexeme.toList := by
  cases k <;> decide

theorem Token.ofWord_lexeme (k : Keyword) : ofWord k.lexeme = .keyword k := by
  have hne : k.lexeme ≠ "true" ∧ k.lexeme ≠ "false" := by cases k <;> decide
  rw [ofWord, if_neg hne.1, if_neg hne.2, Keyword.ofLexeme?_eq_some_iff.2 rfl]

theorem Token.ofWord_of_not_isReserved {w : List Char} (h : ¬IsReserved w) :
    ofWord (String.ofList w) = .identifier (String.ofList w) := by
  have ht : String.ofList w ≠ "true" := fun he => h (Or.inl (by rw [← he, String.toList_ofList]))
  have hf : String.ofList w ≠ "false" :=
    fun he => h (Or.inr (Or.inl (by rw [← he, String.toList_ofList])))
  have hk : Keyword.ofLexeme? (String.ofList w) = none := by
    cases hk : Keyword.ofLexeme? (String.ofList w) with
    | none => rfl
    | some k =>
      have he := Keyword.ofLexeme?_eq_some_iff.1 hk
      exact absurd (Or.inr (Or.inr ⟨k, by rw [he, String.toList_ofList]⟩)) h
  rw [ofWord, if_neg ht, if_neg hf, hk]

/-- A word spells the token that it is classified as. -/
theorem spells_ofWord {w : List Char} (hw : IsWord w) (hv : ¬BeginsVersion w) :
    Spells w (Token.ofWord (String.ofList w)) := by
  by_cases hr : IsReserved w
  · rcases hr with rfl | rfl | ⟨k, rfl⟩
    · exact .trueWord
    · exact .falseWord
    · rw [String.ofList_toList, Token.ofWord_lexeme]
      exact .keyword k
  · rw [Token.ofWord_of_not_isReserved hr]
    exact .identifier hw hr hv

theorem ofChars_eq_word {c : Char} {w : List Char} (hc : isWordStart c = true)
    (hv : ¬BeginsVersion (c :: w)) : Form.ofChars c w.head? = .word := by
  refine Form.ofChars_eq_iff.2 ⟨hc, ?_⟩
  rintro ⟨rfl, hd⟩
  cases w with
  | nil => cases hd
  | cons d w => exact hv ⟨d, w, rfl, by simpa using hd⟩

/-- A version is recognised by a digit, which belongs to every word that it goes on. -/
theorem not_beginsVersion_append {w rest : List Char} (hw : w ≠ []) (hv : ¬BeginsVersion w)
    (hr : EndsBefore isWordPart rest) : ¬BeginsVersion (w ++ rest) := by
  rintro ⟨d, more, h, hd⟩
  match w with
  | [] => exact hw rfl
  | [c] =>
    injection h with _ hrest
    rw [show rest = d :: more from hrest, endsBefore_cons, isWordPart_of_isDigit hd] at hr
    cases hr
  | c :: e :: w =>
    injection h with hc hrest
    injection hrest with he hrest
    exact hv ⟨d, w, by rw [hc, he], hd⟩

/-! ### The first character -/

theorem Operator.endsBefore_isBlank (o : Operator) : EndsBefore isBlank o.lexeme.toList := by
  cases o <;> exact endsBefore_cons.2 rfl

/-- No lexeme opens with a blank. -/
theorem Spells.endsBefore_isBlank {l : List Char} {token : Token} (h : Spells l token) :
    EndsBefore isBlank l := by
  have hword : ∀ {w : List Char}, IsWord w → EndsBefore isBlank w := by
    rintro _ ⟨c, w, rfl, hc, -⟩
    exact endsBefore_cons.2 (isBlank_eq_false_of_isWordStart hc)
  cases h with
  | keyword k => exact hword k.isWord_lexeme.1
  | identifier hw _ _ => exact hword hw
  | number hs hu =>
    simp only [List.mem_cons, List.not_mem_nil, or_false] at hs
    rcases hs with rfl | rfl | rfl
    · obtain ⟨c, w, rfl, hc⟩ := hu.exists_cons
      exact endsBefore_cons.2 (isBlank_eq_false_of_isDigit hc)
    · exact endsBefore_cons.2 rfl
    · exact endsBefore_cons.2 rfl
  | operator o => exact o.endsBefore_isBlank
  | _ => exact endsBefore_cons.2 rfl

theorem StandsBefore.endsBefore_isBlank {t rest : List Char} {token : Token}
    (h : StandsBefore t token rest) : EndsBefore isBlank t := by
  obtain ⟨l, rfl, hl, -⟩ := h
  have hblank := hl.endsBefore_isBlank
  obtain ⟨c, w, rfl⟩ := List.exists_cons_of_ne_nil hl.ne_nil
  exact endsBefore_cons.2 (endsBefore_cons.1 hblank)

namespace Ahead

theorem word_standsBefore {c : Char} {t rest : List Char} {token : Token}
    (hf : Form.ofChars c t.head? = .word) (h : word c t = .found (some token) rest) :
    StandsBefore (c :: t) token rest := by
  obtain ⟨hc, hv⟩ := Form.ofChars_eq_iff.1 hf
  injection h with htoken hrest
  have hbegins : ¬BeginsVersion (c :: t.takeWhile isWordPart) := by
    rintro ⟨d, w, h, hd⟩
    injection h with hcv hw
    refine hv ⟨hcv, ?_⟩
    have ht : t = d :: (w ++ t.dropWhile isWordPart) := by
      rw [← List.cons_append, ← hw, List.takeWhile_append_dropWhile]
    rw [ht]
    simpa using hd
  refine ⟨c :: t.takeWhile isWordPart, ?_, ?_, ?_⟩
  · rw [← hrest, List.cons_append, List.takeWhile_append_dropWhile]
  · rw [← Option.some.inj htoken]
    exact spells_ofWord ⟨c, _, rfl, hc, fun d hd => List.mem_takeWhile_imp hd⟩ hbegins
  · intro d hd
    rw [goesOn, ofChars_eq_word hc hbegins]
    rw [← hrest] at hd
    exact endsBefore_dropWhile isWordPart t d hd

theorem lexeme_of_isWord {w rest : List Char} (hw : IsWord w) (hv : ¬BeginsVersion w)
    (hr : EndsBefore (goesOn w) rest) :
    lexeme (w ++ rest) = .found (some (Token.ofWord (String.ofList w))) rest := by
  obtain ⟨c, w, rfl, hc, hw⟩ := hw
  have hend : EndsBefore isWordPart rest := by
    intro d hd
    have hgo := hr d hd
    rwa [goesOn, ofChars_eq_word hc hv] at hgo
  have hform : Form.ofChars c (w ++ rest).head? = .word :=
    ofChars_eq_word hc (not_beginsVersion_append (by simp) hv hend)
  rw [List.cons_append, (Opening.word hform).lexeme_eq, word, takeWhile_append hw hend,
    dropWhile_append hw hend]

/-! ### Numbers and versions -/

theorem goesOn_version {u : List Char} {d : Decimal} (hu : Numeral u d) :
    goesOn ('v' :: u) = isNumeralPart := by
  funext x
  rw [goesOn, Form.ofChars_v hu.any_isDigit]
  rfl

theorem goesOn_number {sign u : List Char} {d : Decimal} (hs : sign ∈ [[], ['+'], ['-']])
    (hu : Numeral u d) : goesOn (sign ++ u) = isNumeralPart := by
  funext x
  simp only [List.mem_cons, List.not_mem_nil, or_false] at hs
  rcases hs with rfl | rfl | rfl
  · obtain ⟨c, w, rfl, hc⟩ := hu.exists_cons
    rw [List.nil_append, goesOn, Form.ofChars_of_isDigit hc]
    rfl
  · rw [List.singleton_append, goesOn, Form.ofChars_of_isSign rfl hu.any_isDigit]
    rfl
  · rw [List.singleton_append, goesOn, Form.ofChars_of_isSign rfl hu.any_isDigit]
    rfl

theorem version_standsBefore {t rest : List Char} {token : Token}
    (hd : t.head?.any isDigit = true) (h : version t = .found (some token) rest) :
    StandsBefore ('v' :: t) token rest := by
  obtain ⟨a, ha, htoken⟩ := Scanned.map_eq_found_iff.1 h
  obtain ⟨u, d, rfl, rfl, hu, hend⟩ := numeral_of_found hd ha
  injection htoken with htoken
  rw [← htoken]
  exact ⟨'v' :: u, rfl, .version hu, by rwa [goesOn_version hu]⟩

theorem number_standsBefore {sign t rest : List Char} {token : Token}
    (hs : sign ∈ [[], ['+'], ['-']]) (hd : t.head?.any isDigit = true)
    (h : (numeral t).map (Option.map fun d => .number (signedValue sign d)) =
      .found (some token) rest) :
    StandsBefore (sign ++ t) token rest := by
  obtain ⟨a, ha, htoken⟩ := Scanned.map_eq_found_iff.1 h
  obtain ⟨u, d, rfl, rfl, hu, hend⟩ := numeral_of_found hd ha
  injection htoken with htoken
  rw [← htoken]
  exact ⟨sign ++ u, (List.append_assoc _ _ _).symm, .number hs hu, by rwa [goesOn_number hs hu]⟩

theorem lexeme_version {u rest : List Char} {d : Decimal} (hu : Numeral u d)
    (hr : EndsBefore isNumeralPart rest) :
    lexeme ('v' :: u ++ rest) = .found (some (.version d)) rest := by
  have hopen := Opening.version (hu.any_isDigit_append rest)
  rw [List.cons_append, hopen.lexeme_eq, version, numeral_eq_found_of_numeral hu hr]
  rfl

theorem lexeme_number {sign u rest : List Char} {d : Decimal} (hs : sign ∈ [[], ['+'], ['-']])
    (hu : Numeral u d) (hr : EndsBefore isNumeralPart rest) :
    lexeme (sign ++ u ++ rest) = .found (some (.number (signedValue sign d))) rest := by
  have hopen := Opening.number hs (hu.any_isDigit_append rest)
  rw [List.append_assoc, hopen.lexeme_eq, numeral_eq_found_of_numeral hu hr]
  rfl

/-! ### Strings and characters -/

theorem quoted_eq_some_iff {t x rest : List Char} :
    quoted t = (some x, rest) ↔ t = x ++ '"' :: rest ∧ '"' ∉ x := by
  induction t generalizing x with
  | nil => simp [quoted]
  | cons c t ih =>
    by_cases hc : c = '"'
    · subst hc
      rw [quoted, if_pos rfl]
      constructor
      · intro h
        injection h with hx hrest
        rw [← Option.some.inj hx, hrest]
        exact ⟨rfl, by simp⟩
      · rintro ⟨ht, hx⟩
        cases x with
        | nil => injection ht with _ ht; rw [ht]
        | cons d x =>
          injection ht with hd _
          exact absurd (by rw [← hd]; simp) hx
    · rw [quoted, if_neg hc, map_pair_eq_some_iff]
      show (∃ x', quoted t = (some x', rest) ∧ c :: x' = x) ↔ _
      simp only [ih]
      constructor
      · rintro ⟨x', ⟨ht, hx'⟩, rfl⟩
        exact ⟨by rw [ht]; rfl, by simp [hx', Ne.symm hc]⟩
      · rintro ⟨ht, hx⟩
        cases x with
        | nil => injection ht with hd _; exact absurd hd hc
        | cons d x =>
          injection ht with hd ht
          refine ⟨x, ⟨ht, fun hmem => hx (by simp [hmem])⟩, by rw [hd]⟩

theorem quoted_eq_none_iff {t : List Char} : (quoted t).1 = none ↔ '"' ∉ t := by
  induction t with
  | nil => simp [quoted]
  | cons c t ih =>
    by_cases hc : c = '"'
    · simp [quoted, hc]
    · rw [quoted, if_neg hc]
      simp [ih, Ne.symm hc]

theorem string_eq_found_some_iff {t rest : List Char} {token : Token} :
    string t = .found (some token) rest ↔
      ∃ x, t = x ++ '"' :: rest ∧ '"' ∉ x ∧ token = .string (String.ofList x) := by
  constructor
  · intro h
    injection h with htoken hrest
    obtain ⟨x, hx, rfl⟩ := Option.map_eq_some_iff.1 htoken
    obtain ⟨ht, hmem⟩ := quoted_eq_some_iff.1 (Prod.ext hx hrest)
    exact ⟨x, ht, hmem, rfl⟩
  · rintro ⟨x, ht, hmem, rfl⟩
    rw [string, quoted_eq_some_iff.2 ⟨ht, hmem⟩]
    rfl

theorem string_standsBefore {t rest : List Char} {token : Token}
    (h : string t = .found (some token) rest) : StandsBefore ('"' :: t) token rest := by
  obtain ⟨x, rfl, hx, rfl⟩ := string_eq_found_some_iff.1 h
  exact ⟨'"' :: (x ++ ['"']), by simp, .string hx, fun _ _ => rfl⟩

theorem interpolated_standsBefore {t rest : List Char} {token : Token}
    (h : interpolated t = .found (some token) rest) : StandsBefore ('$' :: t) token rest := by
  cases t with
  | nil => cases h
  | cons c t =>
    by_cases hc : c = '"'
    · subst hc
      obtain ⟨x, rfl, hx, rfl⟩ := string_eq_found_some_iff.1 h
      exact ⟨'$' :: '"' :: (x ++ ['"']), by simp, .dollarString hx, fun _ _ => rfl⟩
    · simp [interpolated, hc] at h

theorem charLiteral_standsBefore {t rest : List Char} {token : Token}
    (h : charLiteral t = .found (some token) rest) : StandsBefore ('\'' :: t) token rest := by
  match t with
  | [] => cases h
  | [_] => cases h
  | c :: d :: t =>
    injection h with htoken hrest
    split_ifs at htoken with hd
    rw [← Option.some.inj htoken, ← hrest, hd]
    exact ⟨['\'', c, '\''], rfl, .char c, fun _ _ => rfl⟩

/-! ### Comments -/

theorem lineComment_standsBefore {t rest : List Char} {token : Token}
    (h : lineComment t = .found (some token) rest) :
    StandsBefore ('/' :: '/' :: t) token rest := by
  injection h with htoken hrest
  rw [← Option.some.inj htoken, ← hrest]
  refine ⟨'/' :: '/' :: t.takeWhile (· != '\n'), ?_, .lineComment fun hmem => ?_, ?_⟩
  · rw [List.cons_append, List.cons_append, List.takeWhile_append_dropWhile]
  · simpa using List.mem_takeWhile_imp hmem
  · exact endsBefore_dropWhile (· != '\n') t

theorem blockComment_standsBefore {t rest : List Char} {token : Token}
    (h : blockComment t = .found (some token) rest) :
    StandsBefore ('/' :: '*' :: t) token rest := by
  injection h with htoken hrest
  obtain ⟨x, hx, rfl⟩ := Option.map_eq_some_iff.1 htoken
  have hcloses := commentText_eq_some_iff.1 (Prod.ext hx hrest)
  obtain ⟨rfl, htext⟩ := CommentUnit.closesAt_zero_iff.1 hcloses
  exact ⟨'/' :: '*' :: (x ++ ['*', '/']), by simp, .blockComment htext, fun _ _ => rfl⟩

/-! ### Operators -/

/-- The characters of an operator are those by which it is looked up. -/
theorem lexeme_operator_cases (o : Operator) :
    (∃ c, o.lexeme.toList = [c] ∧ Operator.single? c = some o ∧ Form.ofChars c none = .sign) ∨
      ∃ c d short, o.lexeme.toList = [c, d] ∧ Operator.pair? c d = some o ∧
        Operator.single? c = some short ∧ Form.ofChars c (some d) = .sign := by
  cases o <;>
    first
      | exact Or.inl ⟨_, rfl, rfl, rfl⟩
      | exact Or.inr ⟨_, _, _, rfl, rfl, rfl, rfl⟩

theorem sign_standsBefore {c : Char} {t rest : List Char} {token : Token}
    (hf : Form.ofChars c t.head? = .sign) (h : sign c t = .found (some token) rest) :
    StandsBefore (c :: t) token rest := by
  rw [sign] at h
  cases hshort : Operator.single? c with
  | none => rw [hshort] at h; cases h
  | some short =>
    simp only [hshort] at h
    cases hpair : t.head?.bind (Operator.pair? c) with
    | some long =>
      rw [hpair] at h
      injection h with htoken hrest
      obtain ⟨d, hd, hlong⟩ := Option.bind_eq_some_iff.1 hpair
      obtain ⟨t, rfl⟩ : ∃ t', t = d :: t' := List.head?_eq_some_iff.1 hd
      rw [← Option.some.inj htoken, ← hrest]
      refine ⟨long.lexeme.toList, by rw [Operator.lexeme_of_pair? hlong]; rfl, .operator long, ?_⟩
      intro x _
      rw [Operator.lexeme_of_pair? hlong, goesOn]
      have hform : Form.ofChars c (some d) = .sign := hf
      rw [List.head?_cons, hform]
      rfl
    | none =>
      rw [hpair] at h
      injection h with htoken hrest
      rw [← Option.some.inj htoken, ← hrest]
      -- the next character completes no operator, hence the short one does not go on with it
      refine ⟨short.lexeme.toList, by rw [Operator.lexeme_of_single? hshort]; rfl, .operator short,
        ?_⟩
      intro x hx
      rw [Option.mem_def.1 hx] at hf hpair
      rw [Operator.lexeme_of_single? hshort, goesOn, List.head?_nil, Form.ofChars_none_eq_sign hf]
      simp only [Form.goesOn, hf, show Operator.pair? c x = none from hpair]
      rfl

theorem lexeme_operator {o : Operator} {rest : List Char}
    (hr : EndsBefore (goesOn o.lexeme.toList) rest) :
    lexeme (o.lexeme.toList ++ rest) = .found (some (.operator o)) rest := by
  rcases lexeme_operator_cases o with ⟨c, hl, hc, hform⟩ | ⟨c, d, short, hl, hp, hc, hform⟩
  · rw [hl] at hr ⊢
    cases rest with
    | nil =>
      rw [List.append_nil, lexeme, List.head?_nil, hform, lexemeOf, sign, hc]
      rfl
    | cons d rest =>
      rw [endsBefore_cons, goesOn, List.head?_nil, hform] at hr
      simp only [Form.goesOn, List.isEmpty_nil, Bool.true_and, Bool.or_eq_false_iff,
        bne_eq_false_iff_eq, Option.isSome_eq_false_iff, Option.isNone_iff_eq_none] at hr
      rw [List.singleton_append, lexeme, List.head?_cons, hr.1, lexemeOf, sign, hc]
      simp only [List.head?_cons, Option.bind_some, hr.2]
  · rw [hl, List.cons_append, lexeme, List.cons_append, List.head?_cons, hform, lexemeOf, sign, hc]
    simp only [List.head?_cons, Option.bind_some, hp, List.tail_cons, List.nil_append]

/-! ### The scan of a lexeme -/

/-- A lexeme that is found is a whole spelling of its token. -/
theorem standsBefore_of_lexeme {t rest : List Char} {token : Token}
    (h : lexeme t = .found (some token) rest) : StandsBefore t token rest := by
  have hopen := opening_lexeme t
  generalize lexeme t = o at h hopen
  cases hopen with
  | nothing => cases h
  | version hd => exact version_standsBefore hd h
  | word hf => exact word_standsBefore hf h
  | string => exact string_standsBefore h
  | interpolated => exact interpolated_standsBefore h
  | charLiteral => exact charLiteral_standsBefore h
  | number hs hd => exact number_standsBefore hs hd h
  | blockComment => exact blockComment_standsBefore h
  | lineComment => exact lineComment_standsBefore h
  | sign hf => exact sign_standsBefore hf h

/-- A whole spelling of a token is found. -/
theorem lexeme_of_standsBefore {l rest : List Char} {token : Token} (hl : Spells l token)
    (hr : EndsBefore (goesOn l) rest) : lexeme (l ++ rest) = .found (some token) rest := by
  cases hl with
  | trueWord => exact lexeme_of_isWord (by decide) (by decide) hr
  | falseWord => exact lexeme_of_isWord (by decide) (by decide) hr
  | keyword k =>
    have hk := lexeme_of_isWord k.isWord_lexeme.1 k.isWord_lexeme.2 hr
    rwa [String.ofList_toList, Token.ofWord_lexeme] at hk
  | identifier hw hres hv =>
    have hl := lexeme_of_isWord hw hv hr
    rwa [Token.ofWord_of_not_isReserved hres] at hl
  | number hs hu =>
    rw [goesOn_number hs hu] at hr
    exact lexeme_number hs hu hr
  | version hu =>
    rw [goesOn_version hu] at hr
    exact lexeme_version hu hr
  | @string x hx =>
    have hs : string (x ++ '"' :: rest) = .found (some (.string (String.ofList x))) rest :=
      string_eq_found_some_iff.2 ⟨x, rfl, hx, rfl⟩
    rw [← hs, List.cons_append, List.append_assoc]
    rfl
  | @dollarString x hx =>
    have hs : string (x ++ '"' :: rest) = .found (some (.string (String.ofList x))) rest :=
      string_eq_found_some_iff.2 ⟨x, rfl, hx, rfl⟩
    rw [← hs, List.cons_append, List.cons_append, List.append_assoc]
    rfl
  | char c => rfl
  | @lineComment x hx =>
    have hend : EndsBefore (· != '\n') rest := hr
    have hall : ∀ c ∈ x, (c != '\n') = true := by
      intro c hc
      rw [bne_iff_ne]
      rintro rfl
      exact hx hc
    have hb : lineComment (x ++ rest) = .found (some (.comment (String.ofList x))) rest := by
      rw [lineComment, takeWhile_append hall hend, dropWhile_append hall hend]
    rw [← hb]
    rfl
  | @blockComment x hx =>
    have hc : commentText 0 (x ++ '*' :: '/' :: rest) = (some x, rest) :=
      commentText_eq_some_iff.2 (CommentUnit.closesAt_zero_iff.2 ⟨rfl, hx⟩)
    have hb : blockComment (x ++ '*' :: '/' :: rest) =
        .found (some (.comment (String.ofList x))) rest := by
      rw [blockComment, hc]
      rfl
    rw [← hb, List.cons_append, List.cons_append, List.append_assoc]
    rfl
  | operator o => exact lexeme_operator hr

/-- **A lexeme is found exactly where a whole spelling of its token stands.** -/
theorem lexeme_eq_found_some_iff {t rest : List Char} {token : Token} :
    lexeme t = .found (some token) rest ↔ StandsBefore t token rest := by
  constructor
  · exact standsBefore_of_lexeme
  · rintro ⟨l, rfl, hl, hr⟩
    exact lexeme_of_standsBefore hl hr

end Ahead

end Lexis
