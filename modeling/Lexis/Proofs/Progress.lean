import Lexis.Proofs.Passage

/-! # Every request for a token makes progress

As long as a character is ahead that is no blank, a request for a token passes the blanks in front of
it and the character itself, whether it is answered by a token or refused
(`Session.exists_passed_of_perform_token`). A client that asks for tokens as long as one follows, and
passes over refusals, comes to the end therefore: each of its rounds is paid for by a character
(`Session.Drains.length_le`). -/

namespace Lexis

open CharClass Run

namespace Ahead

/-- Where the text has a character that is no blank, the request for a token passes the blanks and at
least that character. -/
theorem exists_passed_of_token {t : List Char} (h : (t.any fun c => !isBlank c) = true) :
    ∃ passed, passed ≠ [] ∧ t = t.takeWhile isBlank ++ (passed ++ (token t).rest) := by
  rw [← Session.not_isEmpty_behindBlanks] at h
  cases hb : behindBlanks t with
  | nil =>
    rw [hb] at h
    cases h
  | cons c behind =>
    obtain ⟨passed, hpassed⟩ := rest_lexeme_suffix_tail (c :: behind)
    have hsplit : t.takeWhile isBlank ++ behindBlanks t = t := List.takeWhile_append_dropWhile
    refine ⟨c :: passed, List.cons_ne_nil _ _, ?_⟩
    rw [token, rest_whole, hb, List.cons_append, hpassed, List.tail_cons, ← hb, hsplit]

/-- Passing the blanks does not change whether another character is ahead. -/
theorem any_behindBlanks (t : List Char) :
    ((behindBlanks t).any fun c => !isBlank c) = t.any fun c => !isBlank c := by
  have hidle : behindBlanks (behindBlanks t) = behindBlanks t := List.dropWhile_idempotent _ _
  rw [← Session.not_isEmpty_behindBlanks, hidle, Session.not_isEmpty_behindBlanks]

/-- A run finds at most as many tokens as the text has characters. -/
theorem length_tokens_run_le (t : List Char) : (run t).tokens.length ≤ t.length := by
  obtain ⟨passed, hpassed, hwithin⟩ := spelledWithin_run t
  have hle := hwithin.length_le
  have hlength := congrArg List.length hpassed
  rw [List.length_map] at hle
  rw [List.length_append] at hlength
  omega

end Ahead

namespace Session

variable {text ahead : List Char} {s s' left : Session} {answers : List (Except Failure Reply)}

/-! ### One request -/

/-- The answer is a token or a lexical failure. -/
def IsLexed (answer : Except Failure Reply) : Prop :=
  (∃ t, answer = .ok (.token t)) ∨ ∃ e, answer = .error (.lexing e)

/-- **A request for a token passes a character that is no blank**, if there is one. -/
theorem exists_passed_of_perform_token (hs : s.stream.At text ahead)
    (hmore : (ahead.any fun c => !isBlank c) = true) :
    ∃ passed rest, passed ≠ [] ∧ ahead = ahead.takeWhile isBlank ++ (passed ++ rest) ∧
      (s.perform .token).2.stream.At text rest := by
  obtain ⟨passed, hne, hahead⟩ := Ahead.exists_passed_of_token hmore
  exact ⟨passed, _, hne, hahead, (answer_at hs Scan.comes_token .token).2⟩

/-! ### Asking for all of them -/

/-- A client asks for a token as long as one follows, and goes on behind a lexical failure. It has got
the answers when it stops. -/
inductive Drains : Session → List (Except Failure Reply) → Session → Prop
  | stop {s left : Session} : s.perform .hasNext = (.ok (.flag false), left) → Drains s [] left
  | round {s s' left : Session} {answers : List (Except Failure Reply)} :
      s.perform .hasNext = (.ok (.flag true), s') → IsLexed (s'.perform .token).1 →
      Drains (s'.perform .token).2 answers left → Drains s ((s'.perform .token).1 :: answers) left

/-- A round leaves fewer characters. -/
theorem exists_at_of_round (hs : s.stream.At text ahead)
    (hnext : s.perform .hasNext = (.ok (.flag true), s')) :
    ∃ rest, (s'.perform .token).2.stream.At text rest ∧ rest.length < ahead.length := by
  obtain ⟨hreply, hat⟩ := perform_hasNext_at hs
  rw [hnext] at hreply hat
  injection hreply with hreply
  injection hreply with hmore
  rw [← Ahead.any_behindBlanks] at hmore
  obtain ⟨passed, rest, hne, hsplit, hrest⟩ := exists_passed_of_perform_token hat hmore.symm
  refine ⟨rest, hrest, ?_⟩
  have hpos := List.length_pos_of_ne_nil hne
  have hlength := congrArg List.length hsplit
  have hle : (Ahead.behindBlanks ahead).length ≤ ahead.length :=
    (List.dropWhile_suffix isBlank).length_le
  simp only [List.length_append] at hlength
  omega

/-- The client stops, by induction on the characters ahead. -/
theorem exists_drains (hs : s.stream.At text ahead) : ∃ answers left, s.Drains answers left := by
  induction hn : ahead.length using Nat.strong_induction_on generalizing s ahead with
  | _ n ih =>
    obtain ⟨hreply, hat⟩ := perform_hasNext_at hs
    cases hmore : ahead.any fun c => !isBlank c with
    | false =>
      rw [hmore] at hreply
      exact ⟨[], _, .stop (Prod.ext hreply rfl)⟩
    | true =>
      rw [hmore] at hreply
      have hnext : s.perform .hasNext = (.ok (.flag true), (s.perform .hasNext).2) :=
        Prod.ext hreply rfl
      obtain ⟨rest, hrest, hlt⟩ := exists_at_of_round hs hnext
      obtain ⟨answers, left, hdrains⟩ := ih rest.length (hn ▸ hlt) hrest rfl
      exact ⟨_, left, .round hnext (perform_token_answers hat) hdrains⟩

/-- **Each answer is paid for by a character**, and nothing is left. -/
theorem Drains.length_le (h : s.Drains answers left) (hs : s.stream.At text ahead) :
    answers.length ≤ ahead.length ∧ left.stream.unread = [] := by
  induction h generalizing ahead with
  | stop hnext =>
    obtain ⟨hreply, hat⟩ := perform_hasNext_at hs
    rw [hnext] at hreply hat
    injection hreply with hreply
    injection hreply with hnone
    rw [← not_isEmpty_behindBlanks] at hnone
    refine ⟨Nat.zero_le _, ?_⟩
    rw [hat.unread_eq]
    simpa using hnone
  | round hnext _ _ ih =>
    obtain ⟨rest, hrest, hlt⟩ := exists_at_of_round hs hnext
    obtain ⟨hle, hleft⟩ := ih hrest
    exact ⟨Nat.succ_le_of_lt (Nat.lt_of_le_of_lt hle hlt), hleft⟩

/-! ### Progress -/

/-- **Every request for a token makes progress, also when it is refused.** Take any session that
requests reach on a text. As long as it has a character left that is no blank, a request for a token
is answered by a token or a lexical failure, and consumes the blanks in front and at least one
character more. So the client that asks as long as a token follows, and passes over failures, stops;
it has made at most one request for each character that was left, and nothing is left then. Of a
text that is lexed to its end, there are at most as many tokens as characters. -/
theorem perform_token_progresses (h : Reachable text s) :
    let s' := (s.perform .token).2
    let gap := s.stream.unread.takeWhile isBlank
    ((s.stream.unread.any fun c => !isBlank c) = true →
      IsLexed (s.perform .token).1 ∧ ∃ passed, passed ≠ [] ∧
        s.stream.unread = gap ++ (passed ++ s'.stream.unread) ∧
        s'.stream.position.offset =
          s.stream.position.offset + (gap.length + passed.length)) ∧
    (∃ answers left, s.Drains answers left) ∧
    (∀ answers left, s.Drains answers left →
      answers.length ≤ s.stream.unread.length ∧ left.stream.unread = []) ∧
    s.stream.unread.length ≤ text.length ∧
    ∀ ts, tokenize text = .ok ts → ts.length ≤ text.length := by
  intro s' gap
  obtain ⟨ahead, hat⟩ := h.exists_at
  have hunread : s.stream.unread = ahead := hat.unread_eq
  have hfits := hat.suffix.length_le
  refine ⟨fun hmore => ⟨perform_token_answers hat, ?_⟩, exists_drains hat,
    fun answers left hdrains => ?_, by rwa [hunread], fun ts hts => ?_⟩
  · rw [hunread] at hmore
    obtain ⟨passed, rest, hne, hsplit, hrest⟩ := exists_passed_of_perform_token hat hmore
    have hleft : s'.stream.unread = rest := hrest.unread_eq
    refine ⟨passed, hne, by rw [hleft]; simpa only [gap, hunread] using hsplit, ?_⟩
    have hlength := congrArg List.length hsplit
    simp only [List.length_append] at hlength
    rw [hrest.position, hat.position, Position.offset_ofSuffix hrest.suffix,
      Position.offset_ofSuffix hat.suffix]
    simp only [gap, hunread]
    omega
  · rw [hunread]
    exact hdrains.length_le hat
  · obtain ⟨-, rfl⟩ := tokenize_eq_ok_iff.1 hts
    rw [List.length_map]
    exact Ahead.length_tokens_run_le text

/-- A sign that opens nothing is refused behind a blank, and both are consumed. A malformed number, an
open comment and the letter that this leaves follow, and the client comes to the end. -/
theorem perform_token_progresses_of_refusals :
    let text := " #1.2.3 /*a".toList
    let s := ofStream (Stream.ofText text)
    let s' := (s.perform .token).2
    let gap := s.stream.unread.takeWhile isBlank
    Reachable text s ∧ (s.stream.unread.any fun c => !isBlank c) = true ∧ gap = [' '] ∧
      (s.perform .token).1 = .error (.lexing ⟨.unknownOperator '#', ⟨0, 1, 1, false⟩⟩) ∧
      (∃ passed, passed ≠ [] ∧ s.stream.unread = gap ++ (passed ++ s'.stream.unread)) ∧
      s'.stream.position.offset = 2 ∧
      ∃ answers left, s.Drains answers left ∧ answers.length ≤ s.stream.unread.length ∧
        left.stream.unread = [] := by
  intro text s s' gap
  have hs : Reachable text s := .fresh
  have hmore : (s.stream.unread.any fun c => !isBlank c) = true := by decide +kernel
  obtain ⟨hstep, ⟨answers, left, hdrains⟩, hall, -⟩ := perform_token_progresses hs
  obtain ⟨-, passed, hne, hsplit, -⟩ := hstep hmore
  exact ⟨hs, hmore, by decide +kernel, by decide +kernel, ⟨passed, hne, hsplit⟩,
    by decide +kernel, answers, left, hdrains, hall answers left hdrains⟩

end Session

end Lexis
