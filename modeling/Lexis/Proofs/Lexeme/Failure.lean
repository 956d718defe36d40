import Lexis.Proofs.Lexeme.Spelling

/-! # Texts that open with no token

There are three reasons for which no token is found at the front of a text (`Rejected`). The text may
end before a lexeme is whole (`EndsEarly`), a numeral in it may have a second point
(`MalformedNumeral`), or its first character may open nothing at all (`OpensLexeme`). Each reason is a
condition on the text that does not mention the order in which the scan tries the forms. -/

namespace Lexis

open CharClass Run

/-- The text ends before the lexeme that it opens with is whole. -/
inductive EndsEarly : List Char → Prop
  | nothing : EndsEarly []
  | string {x : List Char} : '"' ∉ x → EndsEarly ('"' :: x)
  | dollarString {x : List Char} : '"' ∉ x → EndsEarly ('$' :: '"' :: x)
  | dollar {x : List Char} : x.head? ≠ some '"' → EndsEarly ('$' :: x)
  | char {x : List Char} : x[1]? ≠ some '\'' → EndsEarly ('\'' :: x)
  | blockComment {x : List Char} : CommentUnit.NeverCloses (CommentUnit.cut x) →
      EndsEarly ('/' :: '*' :: x)

/-- What may stand in front of a numeral: nothing, a sign, or the letter of a version. -/
def leads : List (List Char) := [[], ['+'], ['-'], ['v']]

theorem mem_leads_iff {lead : List Char} :
    lead ∈ leads ↔ lead = ['v'] ∨ lead ∈ [[], ['+'], ['-']] := by
  simp only [leads, List.mem_cons, List.not_mem_nil, or_false]
  tauto

/-- The character opens a word, a number, a string, a character literal or an operator. -/
def OpensLexeme (c : Char) : Prop :=
  isLetter c = true ∨ c = '_' ∨ isDigit c = true ∨ c = '"' ∨ c = '\'' ∨ c = '$' ∨
    ∃ o : Operator, o.lexeme.toList.head? = some c

/-- The text opens with no token, for the given cause and at the place of the text that begins with
`place`. -/
inductive Rejected (t : List Char) : Cause → List Char → Prop
  | early : EndsEarly t → Rejected t .noToken t
  | malformed {lead u place rest : List Char} : lead ∈ leads → t = lead ++ place →
      MalformedNumeral place u rest → Rejected t (.malformedNumber u) place
  | unknown {c : Char} : t.head? = some c → ¬OpensLexeme c → Rejected t (.unknownOperator c) t

theorem Rejected.suffix {t place : List Char} {cause : Cause} (h : Rejected t cause place) :
    place <:+ t := by
  cases h with
  | early _ => exact List.suffix_refl t
  | malformed _ ht _ => exact ⟨_, ht.symm⟩
  | unknown _ _ => exact List.suffix_refl t

section Rejected
variable {t place : List Char}

theorem rejected_noToken_iff : Rejected t .noToken place ↔ EndsEarly t ∧ place = t := by
  constructor
  · intro h
    cases h with
    | early hearly => exact ⟨hearly, rfl⟩
  · rintro ⟨hearly, rfl⟩
    exact .early hearly

theorem rejected_malformedNumber_iff {u : List Char} :
    Rejected t (.malformedNumber u) place ↔
      ∃ lead ∈ leads, ∃ rest, t = lead ++ place ∧ MalformedNumeral place u rest := by
  constructor
  · intro h
    cases h with
    | malformed hlead ht hu => exact ⟨_, hlead, _, ht, hu⟩
  · rintro ⟨lead, hlead, rest, ht, hu⟩
    exact .malformed hlead ht hu

theorem rejected_unknownOperator_iff {c : Char} :
    Rejected t (.unknownOperator c) place ↔
      t.head? = some c ∧ ¬OpensLexeme c ∧ place = t := by
  constructor
  · intro h
    cases h with
    | unknown hc hopens => exact ⟨hc, hopens, rfl⟩
  · rintro ⟨hc, hopens, rfl⟩
    exact .unknown hc hopens

end Rejected

namespace Ahead

/-- A malformed numeral fails the lexeme, whatever may stand in front of it. -/
theorem lexeme_of_malformedNumeral {lead t u rest : List Char} (hlead : lead ∈ leads)
    (h : MalformedNumeral t u rest) :
    lexeme (lead ++ t) = .failed (.malformedNumber u) t rest := by
  have hd := h.any_isDigit
  have hfail := (numeral_eq_failed_iff hd).2 ⟨u, rfl, rfl, h⟩
  rcases mem_leads_iff.1 hlead with rfl | hs
  · rw [List.singleton_append, (Opening.version hd).lexeme_eq, version, hfail, Scanned.map_failed]
  · rw [(Opening.number hs hd).lexeme_eq, hfail, Scanned.map_failed]

/-! ### Characters that open nothing -/

theorem single?_eq_none_iff {c : Char} :
    Operator.single? c = none ↔ ∀ o : Operator, o.lexeme.toList.head? ≠ some c := by
  constructor
  · intro h o ho
    rcases lexeme_operator_cases o with ⟨d, hl, hd, -⟩ | ⟨d, e, short, hl, -, hd, -⟩
    · rw [hl, List.head?_cons] at ho
      rw [Option.some.inj ho, h] at hd
      cases hd
    · rw [hl, List.head?_cons] at ho
      rw [Option.some.inj ho, h] at hd
      cases hd
  · intro h
    cases ho : Operator.single? c with
    | none => rfl
    | some o => exact absurd (by rw [Operator.lexeme_of_single? ho]; rfl) (h o)

theorem ofChars_of_not_opensLexeme {c : Char} (h : ¬OpensLexeme c) (o : Option Char) :
    Form.ofChars c o = .sign := by
  simp only [OpensLexeme, not_or, Bool.not_eq_true] at h
  obtain ⟨hl, hu, hd, hq, ha, hs, hop⟩ := h
  have hne : ∀ o : Operator, ∀ d, o.lexeme.toList.head? = some d → c ≠ d := by
    rintro o d ho rfl
    exact hop ⟨o, ho⟩
  refine Form.ofChars_eq_iff.2 ⟨by simp [isWordStart, hl, hu], hq, hs, ha, hd, ?_, ?_⟩
  · rintro ⟨hsign, -⟩
    rcases isSign_iff.1 hsign with hc | hc
    · exact hne .add '+' rfl hc
    · exact hne .subtract '-' rfl hc
  · rintro ⟨hc, -⟩
    exact hne .divide '/' rfl hc

theorem not_opensLexeme_of_sign {c : Char} {o : Option Char} (hf : Form.ofChars c o = .sign)
    (hs : Operator.single? c = none) : ¬OpensLexeme c := by
  obtain ⟨hw, h3, h4, h5, hd, -, -⟩ := Form.ofChars_eq_iff.1 hf
  rw [isWordStart, Bool.or_eq_false_iff, beq_eq_false_iff_ne] at hw
  simp only [OpensLexeme, not_or, Bool.not_eq_true]
  refine ⟨hw.1, hw.2, hd, h3, h5, h4, ?_⟩
  rintro ⟨o, ho⟩
  exact single?_eq_none_iff.1 hs o ho

theorem sign_eq_failed_iff {c : Char} {t place rest : List Char} {cause : Cause} :
    sign c t = .failed cause place rest ↔
      Operator.single? c = none ∧ cause = .unknownOperator c ∧ place = c :: t ∧ rest = t := by
  rw [sign]
  cases Operator.single? c with
  | none => simp [eq_comm]
  | some short => cases t.head?.bind (Operator.pair? c) <;> simp

/-! ### Failures -/

/-- **A lexeme fails for a second point or an unknown character, and for nothing else.** -/
theorem lexeme_eq_failed_iff {t place rest : List Char} {cause : Cause} :
    lexeme t = .failed cause place rest ↔
      (∃ u, cause = .malformedNumber u ∧
        ∃ lead ∈ leads, t = lead ++ place ∧ MalformedNumeral place u rest) ∨
      ∃ c, cause = .unknownOperator c ∧ place = t ∧ t = c :: rest ∧ ¬OpensLexeme c := by
  constructor
  · intro h
    have hopen := opening_lexeme t
    generalize lexeme t = o at h hopen
    cases hopen with
    | version hd =>
      obtain ⟨u, hcause, rfl, hu⟩ := (numeral_eq_failed_iff hd).1 (Scanned.map_eq_failed_iff.1 h)
      exact Or.inl ⟨u, hcause, ['v'], mem_leads_iff.2 (Or.inl rfl), rfl, hu⟩
    | number hs hd =>
      obtain ⟨u, hcause, rfl, hu⟩ := (numeral_eq_failed_iff hd).1 (Scanned.map_eq_failed_iff.1 h)
      exact Or.inl ⟨u, hcause, _, mem_leads_iff.2 (Or.inr hs), rfl, hu⟩
    | @sign c t hf =>
      obtain ⟨hs, hcause, hplace, rfl⟩ := sign_eq_failed_iff.1 h
      exact Or.inr ⟨c, hcause, hplace, rfl, not_opensLexeme_of_sign hf hs⟩
    -- the other scans may find nothing, but they never fail
    | interpolated =>
      unfold interpolated at h
      split at h <;> cases h
    | charLiteral =>
      unfold charLiteral at h
      split at h <;> cases h
    | _ => cases h
  · rintro (⟨u, rfl, lead, hlead, rfl, hu⟩ | ⟨c, rfl, rfl, rfl, hc⟩)
    · exact lexeme_of_malformedNumeral hlead hu
    · rw [(Opening.sign (ofChars_of_not_opensLexeme hc _)).lexeme_eq]
      refine sign_eq_failed_iff.2 ⟨?_, rfl, rfl, rfl⟩
      refine single?_eq_none_iff.2 fun o ho => hc ?_
      simp only [OpensLexeme]
      exact Or.inr (Or.inr (Or.inr (Or.inr (Or.inr (Or.inr ⟨o, ho⟩)))))

/-! ### Texts that end early -/

theorem string_eq_found_none_iff {t : List Char} :
    (∃ rest, string t = .found none rest) ↔ '"' ∉ t := by
  rw [← quoted_eq_none_iff, string]
  simp

theorem blockComment_eq_found_none_iff {t : List Char} :
    (∃ rest, blockComment t = .found none rest) ↔
      CommentUnit.NeverCloses (CommentUnit.cut t) := by
  rw [CommentUnit.neverCloses_iff, ← commentText_eq_none_iff, blockComment]
  simp

theorem charLiteral_eq_found_none_iff {t : List Char} :
    (∃ rest, charLiteral t = .found none rest) ↔ t[1]? ≠ some '\'' := by
  rcases t with _ | ⟨c, _ | ⟨d, t⟩⟩
  · simp [charLiteral]
  · simp [charLiteral]
  · simp [charLiteral]

/-- What follows a lead is found to be a numeral, or fails. -/
theorem map_numeral_ne_found_none {t rest : List Char} {f : Decimal → Token}
    (hd : t.head?.any isDigit = true) : (numeral t).map (Option.map f) ≠ .found none rest := by
  intro h
  obtain ⟨a, ha, hnone⟩ := Scanned.map_eq_found_iff.1 h
  obtain ⟨u, d, rfl, -⟩ := numeral_of_found hd ha
  cases hnone

theorem sign_ne_found_none {c : Char} {t rest : List Char} : sign c t ≠ .found none rest := by
  rw [sign]
  cases Operator.single? c with
  | none => simp
  | some short => cases t.head?.bind (Operator.pair? c) <;> simp

/-- **Nothing is found exactly when the text ends early.** -/
theorem lexeme_eq_found_none_iff {t : List Char} :
    (∃ rest, lexeme t = .found none rest) ↔ EndsEarly t := by
  constructor
  · rintro ⟨rest, h⟩
    have hopen := opening_lexeme t
    generalize lexeme t = o at h hopen
    cases hopen with
    | nothing => exact .nothing
    | version hd => exact absurd h (map_numeral_ne_found_none hd)
    | number hs hd => exact absurd h (map_numeral_ne_found_none hd)
    | sign hf => exact absurd h sign_ne_found_none
    | string => exact .string (string_eq_found_none_iff.1 ⟨rest, h⟩)
    | charLiteral => exact .char (charLiteral_eq_found_none_iff.1 ⟨rest, h⟩)
    | blockComment => exact .blockComment (blockComment_eq_found_none_iff.1 ⟨rest, h⟩)
    | interpolated =>
      unfold interpolated at h
      split at h
      · exact .dollarString (string_eq_found_none_iff.1 ⟨rest, h⟩)
      · rename_i hq
        refine .dollar fun hhead => ?_
        obtain ⟨x, hx⟩ := List.head?_eq_some_iff.1 hhead
        exact hq x hx
    | word hf => cases h
    | lineComment => cases h
  · intro h
    cases h with
    | nothing => exact ⟨[], rfl⟩
    | string hx => exact string_eq_found_none_iff.2 hx
    | dollarString hx => exact string_eq_found_none_iff.2 hx
    | @dollar x hx =>
      refine ⟨x, ?_⟩
      show interpolated x = _
      unfold interpolated
      split
      · exact absurd rfl hx
      · rfl
    | char hx => exact charLiteral_eq_found_none_iff.2 hx
    | blockComment hx => exact blockComment_eq_found_none_iff.2 hx

/-! ### Tokens -/

theorem whole_eq_failed_iff {t place rest : List Char} {cause : Cause} :
    whole t = .failed cause place rest ↔
      (cause = .noToken ∧ place = t ∧ lexeme t = .found none rest) ∨
        lexeme t = .failed cause place rest := by
  rw [whole]
  cases lexeme t with
  | found a rest' =>
    cases a with
    | none => simp [eq_comm]
    | some a => simp
  | failed cause' place' rest' => simp

/-- **No token is found exactly when the text is rejected.** -/
theorem exists_whole_eq_failed_iff {t place : List Char} {cause : Cause} :
    (∃ rest, whole t = .failed cause place rest) ↔ Rejected t cause place := by
  constructor
  · rintro ⟨rest, h⟩
    rcases whole_eq_failed_iff.1 h with ⟨rfl, rfl, hnone⟩ | hfailed
    · exact .early (lexeme_eq_found_none_iff.1 ⟨rest, hnone⟩)
    · rcases lexeme_eq_failed_iff.1 hfailed with
        ⟨u, rfl, lead, hlead, ht, hu⟩ | ⟨c, rfl, rfl, ht, hc⟩
      · exact .malformed hlead ht hu
      · exact .unknown (by rw [ht, List.head?_cons]) hc
  · intro h
    cases h with
    | early hearly =>
      obtain ⟨rest, hnone⟩ := lexeme_eq_found_none_iff.2 hearly
      exact ⟨rest, whole_eq_failed_iff.2 (Or.inl ⟨rfl, rfl, hnone⟩)⟩
    | @malformed lead u _ rest hlead ht hu =>
      refine ⟨rest, whole_eq_failed_iff.2 (Or.inr (lexeme_eq_failed_iff.2 (Or.inl ?_)))⟩
      exact ⟨u, rfl, lead, hlead, ht, hu⟩
    | @unknown c hhead hc =>
      obtain ⟨rest, ht⟩ := List.head?_eq_some_iff.1 hhead
      refine ⟨rest, whole_eq_failed_iff.2 (Or.inr (lexeme_eq_failed_iff.2 (Or.inr ?_)))⟩
      exact ⟨c, rfl, rfl, ht, hc⟩

end Ahead

end Lexis
