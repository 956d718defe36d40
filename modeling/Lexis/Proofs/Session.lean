import Lexis.Proofs.Lexeme.Failure
import Lexis.Proofs.TokenRun
import Lexis.Session

/-! # Sessions over a text

Whatever a session is asked, its stream goes on standing in the text (`Session.perform_at`), so
every session that requests reach from a fresh one is described by the characters that it has not
consumed (`Session.Reachable.exists_at`). What it answers to a request for a token is then decided
by the text behind the blanks: a token, or the failure for which that text is rejected
(`Session.perform_token_eq_error_iff`). -/

namespace Lexis

open CharClass Run

/-- What is left behind an outcome. -/
def Scanned.rest {α : Type} : Scanned α → List Char
  | found _ rest => rest
  | failed _ _ rest => rest

theorem Ahead.rest_tokens (t : List Char) : (tokens t).rest = (run t).rest := by
  rw [tokens]
  cases (run t).failure <;> rfl

/-- The answer that an outcome on `text` gives. -/
def Scanned.reply {α : Type} (text : List Char) (f : α → Reply) : Scanned α → Except Failure Reply
  | found a _ => .ok (f a)
  | failed cause place _ => .error (.lexing ⟨cause, .ofSuffix text place⟩)

namespace Session

variable {α : Type} {text ahead : List Char} {s : Session}

/-! ### Every request keeps the stream in the text -/

/-- A scan that comes to an outcome is answered by it. -/
theorem answer_at {scan : Scan α} {o : Scanned α} (hs : s.stream.At text ahead)
    (hscan : scan.Comes text ahead o) (reply : α → Reply) :
    (s.answer scan reply).1 = o.reply text reply ∧
      (s.answer scan reply).2.stream.At text o.rest := by
  have h := hscan s.stream hs
  cases o with
  | found a rest =>
    obtain ⟨s', hs', hat⟩ := h
    rw [answer, hs']
    exact ⟨rfl, hat⟩
  | failed cause place rest =>
    obtain ⟨s', hs', hat⟩ := h
    rw [answer, hs']
    exact ⟨rfl, hat⟩

/-- A walk that is over answers nothing and touches nothing. -/
theorem stepWalk_of_walkOver (h : s.walkOver = true) : s.stepWalk = (.ok (.positioned none), s) := by
  rw [stepWalk, if_pos h]

/-- A walk that is not over is answered by a step of the run, and goes on exactly if the step finds
a token. -/
theorem stepWalk_answer (hs : s.stream.At text ahead) (hwalk : s.walkOver = false) :
    s.stepWalk.1 = (Ahead.positioned? ahead).reply text
        (fun o => .positioned (o.map (TokenRun.locate text))) ∧
      s.stepWalk.2.stream.At text (Ahead.positioned? ahead).rest ∧
      (s.stepWalk.2.walkOver = false ↔
        ∃ p rest, Ahead.positioned? ahead = .found (some p) rest) := by
  have hstep := Scan.comes_positioned? s.stream hs
  rw [stepWalk, if_neg (Bool.eq_false_iff.1 hwalk)]
  cases hp : Ahead.positioned? ahead with
  | failed cause place rest =>
    rw [hp] at hstep
    obtain ⟨s', hs', hat⟩ := hstep
    rw [hs']
    exact ⟨rfl, hat, by simp⟩
  | found o rest =>
    rw [hp] at hstep
    obtain ⟨s', hs', hat⟩ := hstep
    rw [hs']
    cases o with
    | none => exact ⟨rfl, hat, by simp⟩
    | some p => exact ⟨rfl, hat, by simp⟩

theorem stepWalk_at (hs : s.stream.At text ahead) :
    ∃ rest, s.stepWalk.2.stream.At text rest := by
  cases hwalk : s.walkOver with
  | false => exact ⟨_, (stepWalk_answer hs hwalk).2.1⟩
  | true =>
    rw [stepWalk_of_walkOver hwalk]
    exact ⟨ahead, hs⟩

/-- **Every request leaves the stream in the text.** -/
theorem perform_at (hs : s.stream.At text ahead) :
    ∀ request, ∃ rest, (s.perform request).2.stream.At text rest
  | .hasNext => ⟨_, (answer_at hs Scan.comes_hasNext _).2⟩
  | .token => ⟨_, (answer_at hs Scan.comes_token _).2⟩
  | .next => ⟨_, (answer_at hs Scan.comes_token? _).2⟩
  | .all => ⟨_, (answer_at hs Scan.comes_tokens _).2⟩
  | .walk => stepWalk_at hs
  | .freshWalk => ⟨ahead, hs⟩
  | .read n =>
    ⟨_, (answer_at hs (Scan.comes_ofReading fun _ h => Stream.takeExactly_at n.toNat h) _).2⟩
  | .lookAhead n => ⟨_, (answer_at hs (Scan.comes_peekExactly n.toNat) _).2⟩

/-- The sessions that requests reach from a fresh session on the text. -/
inductive Reachable (text : List Char) : Session → Prop
  | fresh : Reachable text (ofStream (Stream.ofText text))
  | step {s : Session} (request : Request) : Reachable text s →
      Reachable text (s.perform request).2

theorem Reachable.exists_at (h : Reachable text s) : ∃ ahead, s.stream.At text ahead := by
  induction h with
  | fresh => exact ⟨text, Stream.at_ofText text⟩
  | step request _ ih =>
    obtain ⟨ahead, hat⟩ := ih
    exact perform_at hat request

/-! ### What a request for a token is answered -/

theorem perform_token (hs : s.stream.At text ahead) :
    (s.perform .token).1 = (Ahead.whole (Ahead.behindBlanks ahead)).reply text .token :=
  (answer_at hs Scan.comes_token .token).1

/-- A token is delivered, and some text left, exactly where the scan behind the blanks comes to
them. -/
theorem perform_token_eq_ok_iff (hs : s.stream.At text ahead) {t : Token} {left : List Char} :
    (s.perform .token).1 = .ok (.token t) ∧ (s.perform .token).2.stream.unread = left ↔
      Ahead.whole (Ahead.behindBlanks ahead) = .found t left := by
  have hat : (s.perform .token).2.stream.At text (Ahead.whole (Ahead.behindBlanks ahead)).rest :=
    (answer_at hs Scan.comes_token .token).2
  rw [perform_token hs, hat.unread_eq]
  cases Ahead.whole (Ahead.behindBlanks ahead) <;> simp [Scanned.reply, Scanned.rest]

/-- A token is refused exactly where the text behind the blanks is rejected. -/
theorem perform_token_eq_error_iff (hs : s.stream.At text ahead) {cause : Cause} {p : Position} :
    (s.perform .token).1 = .error (.lexing ⟨cause, p⟩) ↔
      ∃ place, Rejected (Ahead.behindBlanks ahead) cause place ∧ p = .ofSuffix text place := by
  rw [perform_token hs]
  constructor
  · intro h
    cases hw : Ahead.whole (Ahead.behindBlanks ahead) with
    | found t rest => rw [hw] at h; cases h
    | failed cause' place rest =>
      rw [hw] at h
      injection h with h
      injection h with h
      injection h with hcause hp
      rw [hcause] at hw
      exact ⟨place, Ahead.exists_whole_eq_failed_iff.1 ⟨rest, hw⟩, hp.symm⟩
  · rintro ⟨place, hrejected, rfl⟩
    obtain ⟨rest, hw⟩ := Ahead.exists_whole_eq_failed_iff.2 hrejected
    rw [hw]
    rfl

/-- There is no other answer than a token and a lexical failure. -/
theorem perform_token_answers (hs : s.stream.At text ahead) :
    (∃ t, (s.perform .token).1 = .ok (.token t)) ∨
      ∃ e, (s.perform .token).1 = .error (.lexing e) := by
  rw [perform_token hs]
  cases Ahead.whole (Ahead.behindBlanks ahead) with
  | found t rest => exact Or.inl ⟨t, rfl⟩
  | failed cause place rest => exact Or.inr ⟨_, rfl⟩

/-- **When a request for a token fails.** In every session that requests reach on a text, let `r` be
what is left of the text behind the blanks. The request is refused for want of a token exactly when
`r` ends early, for a malformed number exactly when a numeral at the front of `r` has a second
point, and for an unknown operator exactly when the first character of `r` opens nothing. In every
other case it is answered by a token, whose kind and payload pass the check that is made of them.
The messages quote the whole numeral, or the character. -/
theorem perform_token_failure {text : List Char} {s : Session} (h : Reachable text s) :
    let r := Ahead.behindBlanks s.stream.unread
    r <:+ text ∧
      (∀ p, (s.perform .token).1 = .error (.lexing ⟨.noToken, p⟩) ↔
        EndsEarly r ∧ p = .ofSuffix text r) ∧
      (∀ u p, (s.perform .token).1 = .error (.lexing ⟨.malformedNumber u, p⟩) ↔
        ∃ lead ∈ leads, ∃ place rest, r = lead ++ place ∧ MalformedNumeral place u rest ∧
          p = .ofSuffix text place) ∧
      (∀ c p, (s.perform .token).1 = .error (.lexing ⟨.unknownOperator c, p⟩) ↔
        r.head? = some c ∧ ¬OpensLexeme c ∧ p = .ofSuffix text r) ∧
      ((∃ t, (s.perform .token).1 = .ok (.token t) ∧ Token.make? t.kind t.payload = .ok t) ∨
        ∃ e, (s.perform .token).1 = .error (.lexing e)) ∧
      (∀ u, (Cause.malformedNumber u).message =
        "malformed number literal '" ++ String.ofList u ++ "'") ∧
      ∀ c, (Cause.unknownOperator c).message =
        "no operator starting with '" ++ String.singleton c ++ "' exists" := by
  obtain ⟨ahead, hat⟩ := h.exists_at
  rw [hat.unread_eq]
  have hmade : (∃ t, (s.perform .token).1 = .ok (.token t) ∧ Token.make? t.kind t.payload = .ok t) ∨
      ∃ e, (s.perform .token).1 = .error (.lexing e) :=
    (perform_token_answers hat).imp_left fun ⟨t, ht⟩ => ⟨t, ht, Token.make?_kind_payload t⟩
  refine ⟨(List.dropWhile_suffix _).trans hat.suffix, fun p => ?_, fun u p => ?_, fun c p => ?_,
    hmade, fun _ => rfl, fun _ => rfl⟩
  · rw [perform_token_eq_error_iff hat]
    simp only [rejected_noToken_iff]
    constructor
    · rintro ⟨place, ⟨hearly, rfl⟩, hp⟩
      exact ⟨hearly, hp⟩
    · rintro ⟨hearly, hp⟩
      exact ⟨_, ⟨hearly, rfl⟩, hp⟩
  · rw [perform_token_eq_error_iff hat]
    simp only [rejected_malformedNumber_iff]
    constructor
    · rintro ⟨place, ⟨lead, hlead, rest, hr, hu⟩, hp⟩
      exact ⟨lead, hlead, place, rest, hr, hu, hp⟩
    · rintro ⟨lead, hlead, place, rest, hr, hu, hp⟩
      exact ⟨place, ⟨lead, hlead, rest, hr, hu⟩, hp⟩
  · rw [perform_token_eq_error_iff hat]
    simp only [rejected_unknownOperator_iff]
    constructor
    · rintro ⟨place, ⟨hc, hopens, rfl⟩, hp⟩
      exact ⟨hc, hopens, hp⟩
    · rintro ⟨hc, hopens, hp⟩
      exact ⟨_, ⟨hc, hopens, rfl⟩, hp⟩

/-- Behind a first token, a version with two points is refused at its first digit. -/
theorem perform_token_failure_of_version :
    ∃ s, Reachable ['a', ' ', 'v', '1', '.', '.'] s ∧
      (s.perform .token).1 =
        .error (.lexing ⟨.malformedNumber ['1', '.', '.'], ⟨0, 3, 3, false⟩⟩) := by
  have hs : Reachable ['a', ' ', 'v', '1', '.', '.'] _ := .step .token .fresh
  have hnumeral : MalformedNumeral ['1', '.', '.'] ['1', '.', '.'] [] :=
    ⟨rfl, rfl, List.all_eq_true.1 rfl, endsBefore_nil, by decide⟩
  obtain ⟨-, -, hmalformed, -⟩ := perform_token_failure hs
  refine ⟨_, hs, (hmalformed _ _).2 ?_⟩
  exact ⟨['v'], by decide, ['1', '.', '.'], [], by decide +kernel, hnumeral, rfl⟩

end Session

end Lexis
