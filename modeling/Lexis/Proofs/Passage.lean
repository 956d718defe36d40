import Lexis.Proofs.Drivers

/-! # What requests pass over

A scan only ever passes characters, and always the first one: what it leaves is a suffix of the text
behind that, also when it finds nothing or fails (`Ahead.rest_lexeme_suffix_tail`). A token is
spelled by characters that the request for it passes. So whatever a session is asked, the tokens
that it delivers are spelled by parts of the text ahead that follow one another
(`Session.spelledWithin_lexedBy`): no character is lexed twice, and none that an earlier request has
passed is lexed at all. -/

namespace Lexis

open CharClass Run

/-! ### Scans leave a suffix -/

namespace Ahead

theorem rest_numeral_suffix_tail (t : List Char) : (numeral t).rest <:+ t.tail := by
  cases t with
  | nil => exact List.suffix_refl []
  | cons c t =>
    rw [numeral]
    cases Decimal.ofNumeral? (c :: t.takeWhile isNumeralPart) with
    | none => exact List.dropWhile_suffix _
    | some d => exact List.dropWhile_suffix _

theorem quoted_suffix (t : List Char) : (quoted t).2 <:+ t := by
  fun_induction quoted t with
  | case1 => exact List.suffix_refl []
  | case2 rest => exact List.suffix_cons _ rest
  | case3 c rest _ text behind hbehind ih =>
    rw [hbehind] at ih
    exact ih.trans (List.suffix_cons c rest)

theorem commentText_suffix (depth : Nat) (t : List Char) : (commentText depth t).2 <:+ t := by
  fun_induction commentText depth t with
  | case1 depth t text behind hbehind ih =>
    rw [hbehind] at ih
    exact ih.trans (List.suffix_append ['/', '*'] t)
  | case2 t => exact List.suffix_append ['*', '/'] t
  | case3 depth t text behind hbehind ih =>
    rw [hbehind] at ih
    exact ih.trans (List.suffix_append ['*', '/'] t)
  | case4 depth c d t _ _ _ text behind hbehind ih =>
    rw [hbehind] at ih
    exact ih.trans (List.suffix_cons c (d :: t))
  | case5 depth t => exact List.suffix_refl t

theorem rest_charLiteral_suffix (t : List Char) : (charLiteral t).rest <:+ t := by
  fun_cases charLiteral t with
  | case1 c d t => exact List.suffix_append [c, d] t
  | case2 => exact List.nil_suffix

theorem rest_interpolated_suffix (t : List Char) : (interpolated t).rest <:+ t := by
  fun_cases interpolated t with
  | case1 t => exact (quoted_suffix t).trans (List.suffix_cons _ t)
  | case2 => exact List.suffix_refl t

theorem rest_sign_suffix (c : Char) (t : List Char) : (sign c t).rest <:+ t := by
  rw [sign]
  cases Operator.single? c with
  | none => exact List.suffix_refl t
  | some short =>
    cases t.head?.bind (Operator.pair? c) with
    | none => exact List.suffix_refl t
    | some long => exact List.tail_suffix t

/-- **A scan of a lexeme passes its first character**, and leaves a suffix of what follows. -/
theorem rest_lexeme_suffix_tail (t : List Char) : (lexeme t).rest <:+ t.tail := by
  have hopen := opening_lexeme t
  generalize lexeme t = o at hopen
  cases hopen with
  | nothing => exact List.suffix_refl []
  | version =>
    rw [version, Scanned.rest_map]
    exact (rest_numeral_suffix_tail _).trans (List.tail_suffix _)
  | word => exact List.dropWhile_suffix _
  | string => exact quoted_suffix _
  | interpolated => exact rest_interpolated_suffix _
  | charLiteral => exact rest_charLiteral_suffix _
  | @number sign t hsign _ =>
    rw [Scanned.rest_map]
    -- without a sign the first character is the first of the numeral
    have htail : t.tail <:+ (sign ++ t).tail := by
      simp only [List.mem_cons, List.not_mem_nil, or_false] at hsign
      rcases hsign with rfl | rfl | rfl
      · exact List.suffix_refl _
      · exact List.tail_suffix t
      · exact List.tail_suffix t
    exact (rest_numeral_suffix_tail t).trans htail
  | blockComment => exact (commentText_suffix 0 _).trans (List.suffix_cons '*' _)
  | lineComment => exact (List.dropWhile_suffix _).trans (List.suffix_cons '/' _)
  | sign => exact rest_sign_suffix _ _

theorem rest_lexeme_suffix (t : List Char) : (lexeme t).rest <:+ t :=
  (rest_lexeme_suffix_tail t).trans (List.tail_suffix t)

theorem rest_whole (t : List Char) : (whole t).rest = (lexeme t).rest := by
  rw [whole]
  cases lexeme t with
  | found token rest => cases token <;> rfl
  | failed cause place rest => rfl

theorem rest_token_suffix (t : List Char) : (token t).rest <:+ t := by
  rw [token, rest_whole]
  exact (rest_lexeme_suffix _).trans (List.dropWhile_suffix _)

theorem rest_positioned?_suffix (t : List Char) : (positioned? t).rest <:+ t := by
  have htoken := rest_token_suffix t
  rw [token] at htoken
  rw [positioned?]
  cases hb : behindBlanks t with
  | nil => exact List.nil_suffix
  | cons c rest =>
    rw [hb] at htoken
    simpa only [Scanned.rest_map] using htoken

end Ahead

/-! ### Tokens in a text -/

/-- The tokens are spelled by parts of the text that follow one another. -/
inductive SpelledWithin : List Char → List Token → Prop
  | nil (t : List Char) : SpelledWithin t []
  | cons {gap l rest : List Char} {token : Token} {tokens : List Token} : Spells l token →
      SpelledWithin rest tokens → SpelledWithin (gap ++ (l ++ rest)) (token :: tokens)

namespace SpelledWithin

variable {t t' : List Char} {ts us : List Token}

theorem behind (passed : List Char) (h : SpelledWithin t ts) : SpelledWithin (passed ++ t) ts := by
  cases h with
  | nil => exact .nil _
  | cons hl hrest =>
    rw [← List.append_assoc]
    exact .cons hl hrest

theorem append (h : SpelledWithin t ts) (h' : SpelledWithin t' us) :
    SpelledWithin (t ++ t') (ts ++ us) := by
  induction h with
  | nil t => exact h'.behind t
  | cons hl _ ih =>
    rw [List.append_assoc, List.append_assoc]
    exact .cons hl ih

/-- Each of the tokens has a spelling. -/
theorem exists_spells (h : SpelledWithin t ts) : ∀ u ∈ ts, ∃ l, Spells l u := by
  induction h with
  | nil =>
    intro u hu
    cases hu
  | cons hl _ ih =>
    intro u hu
    rcases List.mem_cons.1 hu with rfl | hu
    · exact ⟨_, hl⟩
    · exact ih u hu

/-- There are at most as many tokens as characters. -/
theorem length_le (h : SpelledWithin t ts) : ts.length ≤ t.length := by
  induction h with
  | nil => exact Nat.zero_le _
  | cons hl _ ih =>
    have hpos := List.length_pos_of_ne_nil hl.ne_nil
    simp only [List.length_append, List.length_cons]
    omega

end SpelledWithin

theorem StandsBefore.spelledWithin {place rest : List Char} {token : Token}
    (h : StandsBefore place token rest) :
    ∃ l, place = l ++ rest ∧ SpelledWithin l [token] := by
  obtain ⟨l, rfl, hl, -⟩ := h
  refine ⟨l, rfl, ?_⟩
  simpa using @SpelledWithin.cons [] _ _ _ _ hl (.nil [])

/-- What a step of a walk finds is spelled by what the step passes. -/
theorem Ahead.spelledWithin_positioned? {t rest : List Char} {o : Option (List Char × Token)}
    (h : positioned? t = .found o rest) :
    ∃ passed, t = passed ++ rest ∧ SpelledWithin passed (o.toList.map (·.2)) := by
  cases o with
  | none =>
    obtain ⟨-, rfl⟩ := positioned?_eq_found_none_iff.1 h
    exact ⟨t, (List.append_nil t).symm, .nil t⟩
  | some p =>
    obtain ⟨gap, rfl, -, hstands⟩ := positioned?_eq_found_some_iff.1 h
    obtain ⟨l, hplace, hl⟩ := hstands.spelledWithin
    exact ⟨gap ++ l, by rw [hplace, List.append_assoc], hl.behind gap⟩

/-- The tokens of a run are spelled by what the run passes. -/
theorem Ahead.spelledWithin_run (t : List Char) :
    ∃ passed, t = passed ++ (run t).rest ∧ SpelledWithin passed ((run t).tokens.map (·.2)) := by
  induction t using run.induct with
  | case1 t rest hp =>
    obtain ⟨hgap, -⟩ := positioned?_eq_found_none_iff.1 hp
    rw [run_of_gap hgap]
    exact ⟨t, (List.append_nil t).symm, .nil t⟩
  | case2 t p rest hp ih =>
    obtain ⟨passed, hrest, hwithin⟩ := ih
    obtain ⟨first, hfirst, htoken⟩ := spelledWithin_positioned? hp
    rw [run_of_found hp]
    refine ⟨first ++ passed, ?_, htoken.append hwithin⟩
    rw [List.append_assoc, ← hrest, ← hfirst]
  | case3 t cause place rest hp =>
    obtain ⟨passed, hpassed⟩ := rest_positioned?_suffix t
    rw [hp] at hpassed
    rw [run_of_failed hp]
    exact ⟨passed, hpassed.symm, .nil passed⟩

/-! ### Requests -/

/-- The tokens in a reply. -/
def Reply.lexed : Reply → List Token
  | .token t => [t]
  | .token? t => t.toList
  | .positioned t => t.toList.map (·.2)
  | .tokens ts => ts
  | .flag _ | .chars _ | .done => []

/-- The tokens in an answer. -/
def lexedIn : Except Failure Reply → List Token
  | .ok reply => reply.lexed
  | .error _ => []

namespace Session

variable {α : Type} {text ahead : List Char} {s : Session}

/-- The tokens that the session delivers when it is asked the requests one after the other. -/
def lexedBy (s : Session) (requests : List Request) : List Token :=
  (s.performAll requests).flatMap fun p => lexedIn p.1

/-- The answer and the session behind it have passed a part of the text ahead, which spells the
tokens of the answer. -/
def Passes (text ahead : List Char) (p : Except Failure Reply × Session) : Prop :=
  ∃ passed rest, ahead = passed ++ rest ∧ p.2.stream.At text rest ∧
    SpelledWithin passed (lexedIn p.1)

/-- An outcome that leaves a suffix is passed as its answer, if what it finds is spelled by what it
passes. -/
theorem passes_of_reply {p : Except Failure Reply × Session} {o : Scanned α} {reply : α → Reply}
    (hanswer : p.1 = o.reply text reply) (hat : p.2.stream.At text o.rest)
    (hrest : o.rest <:+ ahead)
    (hfound : ∀ a rest, o = .found a rest →
      ∃ passed, ahead = passed ++ rest ∧ SpelledWithin passed (reply a).lexed) :
    Passes text ahead p := by
  unfold Passes
  rw [hanswer]
  cases o with
  | found a rest =>
    obtain ⟨passed, hpassed, hwithin⟩ := hfound a rest rfl
    exact ⟨passed, rest, hpassed, hat, hwithin⟩
  | failed cause place rest =>
    obtain ⟨passed, hpassed⟩ := hrest
    exact ⟨passed, rest, hpassed.symm, hat, .nil passed⟩

/-- A scan that delivers no token passes whatever it passes. -/
theorem answer_passes_of_quiet {scan : Scan α} {o : Scanned α} {reply : α → Reply}
    (hs : s.stream.At text ahead) (hscan : scan.Comes text ahead o) (hrest : o.rest <:+ ahead)
    (hquiet : ∀ a, (reply a).lexed = []) : Passes text ahead (s.answer scan reply) := by
  obtain ⟨hanswer, hat⟩ := answer_at hs hscan reply
  refine passes_of_reply hanswer hat hrest fun a rest ho => ?_
  rw [ho] at hrest
  obtain ⟨passed, hpassed⟩ := hrest
  rw [hquiet]
  exact ⟨passed, hpassed.symm, .nil passed⟩

/-- A step of the run is passed by any request that answers it, if the reply has its token. -/
theorem passes_of_positioned? {p : Except Failure Reply × Session}
    {reply : Option (List Char × Token) → Reply}
    (hanswer : p.1 = (Ahead.positioned? ahead).reply text reply)
    (hat : p.2.stream.At text (Ahead.positioned? ahead).rest)
    (hreply : ∀ o, (reply o).lexed = o.toList.map (·.2)) : Passes text ahead p := by
  refine passes_of_reply hanswer hat (Ahead.rest_positioned?_suffix ahead) fun o rest ho => ?_
  rw [hreply]
  exact Ahead.spelledWithin_positioned? ho

theorem stepWalk_passes (hs : s.stream.At text ahead) : Passes text ahead s.stepWalk := by
  cases hwalk : s.walkOver with
  | false =>
    obtain ⟨hanswer, hat, -⟩ := stepWalk_answer hs hwalk
    refine passes_of_positioned? hanswer hat fun o => ?_
    cases o <;> rfl
  | true =>
    rw [stepWalk_of_walkOver hwalk]
    exact ⟨[], ahead, rfl, hs, .nil []⟩

theorem answer_tokens_passes (hs : s.stream.At text ahead) :
    Passes text ahead (s.answer Scan.tokens .tokens) := by
  obtain ⟨hanswer, hat⟩ := answer_at hs Scan.comes_tokens .tokens
  obtain ⟨passed, hpassed, hwithin⟩ := Ahead.spelledWithin_run ahead
  refine passes_of_reply hanswer hat ?_ fun ts rest hts => ?_
  · rw [Ahead.rest_tokens]
    exact ⟨passed, hpassed.symm⟩
  · obtain ⟨-, rfl, rfl⟩ := Ahead.tokens_eq_found_iff.1 hts
    exact ⟨passed, hpassed, hwithin⟩

/-- **Every request passes a part of the text ahead**, and the tokens that it is answered are
spelled by that part. -/
theorem perform_passes (hs : s.stream.At text ahead) :
    ∀ request, Passes text ahead (s.perform request)
  | .hasNext =>
    answer_passes_of_quiet hs Scan.comes_hasNext (List.dropWhile_suffix _) fun _ => rfl
  | .token => by
    obtain ⟨hanswer, hat⟩ := answer_at hs Scan.comes_token .token
    refine passes_of_reply hanswer hat (Ahead.rest_token_suffix ahead) fun t rest ht => ?_
    obtain ⟨l, hplace, hl⟩ := (Ahead.whole_eq_found_iff.1 ht).spelledWithin
    obtain ⟨gap, hgap, -⟩ := Ahead.behindBlanks_eq_iff.1 hplace
    exact ⟨gap ++ l, by rw [hgap, List.append_assoc], hl.behind gap⟩
  | .next => by
    obtain ⟨hanswer, hat⟩ := answer_at hs Scan.comes_token? .token?
    rw [Scanned.reply_map] at hanswer
    rw [Scanned.rest_map] at hat
    refine passes_of_positioned? hanswer hat fun o => ?_
    cases o <;> rfl
  | .all => answer_tokens_passes hs
  | .walk => stepWalk_passes hs
  | .freshWalk => ⟨[], ahead, rfl, hs, .nil []⟩
  | .read n =>
    answer_passes_of_quiet hs (Scan.comes_ofReading fun _ h => Stream.takeExactly_at n.toNat h)
      (List.drop_suffix _ _) fun _ => rfl
  | .lookAhead n =>
    answer_passes_of_quiet hs (Scan.comes_peekExactly n.toNat) (List.suffix_refl _) fun _ => rfl

/-- **Whatever is requested, the tokens are spelled by parts of the text ahead that follow one
another.** -/
theorem spelledWithin_lexedBy (hs : s.stream.At text ahead) (requests : List Request) :
    SpelledWithin ahead (s.lexedBy requests) := by
  induction requests generalizing s ahead with
  | nil => exact .nil ahead
  | cons request requests ih =>
    obtain ⟨passed, rest, rfl, hat, hwithin⟩ := perform_passes hs request
    exact hwithin.append (ih hat)

end Session

end Lexis
