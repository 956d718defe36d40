import Lexis.Proofs.Passage

/-! # Literals that the end of the text cuts off

A string, a character literal or a block comment may begin and never end. No token is found then, and
the search for the end has passed the rest of the text, with one exception. The scan of a block
comment looks at two characters at a time and stops where there is only one, so a comment whose last
character is no part of a delimiter leaves this character behind (`Ahead.commentText_of_none`). Such a
character is still there for the requests that follow: it is what decides whether a token follows, and
it may be delivered as one (`Session.perform_token_truncated`). -/

namespace Lexis

open CharClass

namespace CommentUnit

/-- The last character of a text, if it is a unit by itself. -/
def remnant (us : List CommentUnit) : List Char :=
  match us.getLast? with
  | some (.single c) => [c]
  | some .opening | some .closing | none => []

theorem remnant_cons (u : CommentUnit) {us : List CommentUnit} (h : us ≠ []) :
    remnant (u :: us) = remnant us := by
  obtain ⟨v, vs, rfl⟩ := List.exists_cons_of_ne_nil h
  rw [remnant, List.getLast?_cons_cons, remnant]

/-- A delimiter leaves nothing, wherever it stands. -/
theorem remnant_cons_delimiter {u : CommentUnit} (hu : ∀ c, u ≠ .single c)
    (us : List CommentUnit) : remnant (u :: us) = remnant us := by
  by_cases h : us = []
  · subst h
    cases u with
    | single c => exact absurd rfl (hu c)
    | opening => rfl
    | closing => rfl
  · exact remnant_cons u h

theorem length_remnant_le (us : List CommentUnit) : (remnant us).length ≤ 1 := by
  unfold remnant
  split <;> simp

end CommentUnit

/-- The text opens with a literal that the end of the text cuts off, and a scan leaves `left` of it. -/
inductive Truncated : List Char → List Char → Prop
  | string {x : List Char} : '"' ∉ x → Truncated ('"' :: x) []
  | dollarString {x : List Char} : '"' ∉ x → Truncated ('$' :: '"' :: x) []
  | char {x : List Char} : x.length < 2 → Truncated ('\'' :: x) []
  | blockComment {x : List Char} : CommentUnit.NeverCloses (CommentUnit.cut x) →
      Truncated ('/' :: '*' :: x) (CommentUnit.remnant (CommentUnit.cut x))

theorem Truncated.length_le {t left : List Char} (h : Truncated t left) : left.length ≤ 1 := by
  cases h with
  | blockComment _ => exact CommentUnit.length_remnant_le _
  | _ => exact Nat.zero_le 1

namespace Ahead

open CommentUnit

/-! ### The scan of a truncated literal -/

theorem quoted_of_notMem {t : List Char} (h : '"' ∉ t) : quoted t = (none, []) := by
  induction t with
  | nil => rfl
  | cons c t ih =>
    rw [List.mem_cons, not_or] at h
    rw [quoted, if_neg (Ne.symm h.1), ih h.2]
    rfl

/-- **A comment that does not end leaves its last character, unless it is part of a delimiter.** -/
theorem commentText_of_none {depth : Nat} {t : List Char} (h : (commentText depth t).1 = none) :
    (commentText depth t).2 = remnant (cut t) := by
  fun_induction commentText depth t with
  | case1 depth t inner behind hinner ih =>
    rw [hinner] at ih
    rw [cut.eq_1, remnant_cons_delimiter (by simp), ← ih (Option.map_eq_none_iff.1 h)]
  | case2 t => cases h
  | case3 depth t inner behind hinner ih =>
    rw [hinner] at ih
    rw [cut.eq_2, remnant_cons_delimiter (by simp), ← ih (Option.map_eq_none_iff.1 h)]
  | case4 depth c d t ho hc₀ hc inner behind hinner ih =>
    rw [hinner] at ih
    have hne : cut (d :: t) ≠ [] := fun hnil => by
      have hchars := flatMap_chars_cut (d :: t)
      rw [hnil] at hchars
      cases hchars
    rw [cut_cons_cons ho (not_closing_of_depths hc₀ hc), remnant_cons _ hne,
      ← ih (Option.map_eq_none_iff.1 h)]
  | case5 depth t ho hc₀ hc hpair =>
    rcases t with _ | ⟨c, _ | ⟨d, t⟩⟩
    · rfl
    · simp [cut, remnant]
    · exact absurd rfl (hpair c d t)

theorem charLiteral_of_length_lt {t : List Char} (h : t.length < 2) :
    charLiteral t = .found none [] := by
  match t with
  | [] => rfl
  | [_] => rfl
  | _ :: _ :: _ => exact absurd h (by simp)

/-- Nothing is found in a truncated literal. -/
theorem lexeme_of_truncated {t left : List Char} (h : Truncated t left) :
    lexeme t = .found none left := by
  cases h with
  | string hx =>
    rw [Opening.string.lexeme_eq, string, quoted_of_notMem hx]
    rfl
  | dollarString hx =>
    rw [Opening.interpolated.lexeme_eq, interpolated, string, quoted_of_notMem hx]
    rfl
  | char hx => rw [Opening.charLiteral.lexeme_eq, charLiteral_of_length_lt hx]
  | @blockComment x hx =>
    have hnone : (commentText 0 x).1 = none := commentText_eq_none_iff.2 (neverCloses_iff.1 hx)
    have hscan : commentText 0 x = (none, remnant (cut x)) :=
      Prod.ext hnone (commentText_of_none hnone)
    rw [Opening.blockComment.lexeme_eq, blockComment, hscan]
    rfl

end Ahead

/-! ### What the requests behind it find -/

namespace Session

/-- **What a truncated literal leaves.** When a session asks for a token in front of a literal that
the end of the text cuts off, none is found, and the literal is passed except for the part `left` of
it. This part is empty for strings and character literals and for a comment that stops with a
delimiter; otherwise it is the last character of the comment. The position is in front of it, so it is
the end of the text exactly if the part is empty. A token follows exactly if a character of that part
is no blank, and whatever is requested then, the tokens that are still delivered are spelled by that
part: none if it is empty, and at most one otherwise. -/
theorem perform_token_truncated {text left : List Char} {s : Session} (h : Reachable text s)
    (hr : Truncated (Ahead.behindBlanks s.stream.unread) left) :
    let r := Ahead.behindBlanks s.stream.unread
    let s' := (s.perform .token).2
    (s.perform .token).1 = .error (.lexing ⟨.noToken, .ofSuffix text r⟩) ∧
      s'.stream.unread = left ∧ left <:+ r ∧ left.length ≤ 1 ∧
      s'.stream.position = .ofSuffix text left ∧
      (s'.stream.position.offset = text.length ↔ left = []) ∧
      (s'.perform .hasNext).1 = .ok (.flag (left.any fun c => !isBlank c)) ∧
      ∀ requests, SpelledWithin left (s'.lexedBy requests) ∧
        (s'.lexedBy requests).length ≤ left.length := by
  intro r s'
  obtain ⟨ahead, hat⟩ := h.exists_at
  obtain ⟨hanswer, hleft⟩ := answer_at hat Scan.comes_token .token
  have hlexeme : Ahead.lexeme r = .found none left := Ahead.lexeme_of_truncated hr
  have htoken : Ahead.token ahead = .failed .noToken r left := by
    rw [Ahead.token, ← hat.unread_eq]
    exact Ahead.whole_eq_failed_iff.2 (Or.inl ⟨rfl, rfl, hlexeme⟩)
  rw [htoken] at hanswer hleft
  have hleft' : s'.stream.At text left := hleft
  have hunread : s'.stream.unread = left := hleft'.unread_eq
  have hsuffix : left <:+ r := by
    have hrest := Ahead.rest_lexeme_suffix r
    rwa [hlexeme] at hrest
  refine ⟨hanswer, hunread, hsuffix, hr.length_le, hleft'.position, ?_, ?_, ?_⟩
  · rw [hleft'.position, Position.offset_ofSuffix hleft'.suffix, ← List.length_eq_zero_iff]
    omega
  · have hnext := perform_hasNext (.step .token h : Reachable text s')
    rwa [hunread] at hnext
  · intro requests
    have hwithin := spelledWithin_lexedBy hleft' requests
    exact ⟨hwithin, hwithin.length_le⟩

/-- Behind a word, a comment stops with a letter that is no part of a delimiter. -/
theorem perform_token_truncated_of_comment :
    let text := "x /* /* */ a".toList
    let s := ((ofStream (Stream.ofText text)).perform .token).2
    let s' := (s.perform .token).2
    Reachable text s ∧ Truncated (Ahead.behindBlanks s.stream.unread) ['a'] ∧
      (s.perform .token).1 = .error (.lexing ⟨.noToken, ⟨0, 2, 2, false⟩⟩) ∧
      (s'.perform .hasNext).1 = .ok (.flag true) ∧
      ∀ requests, SpelledWithin ['a'] (s'.lexedBy requests) ∧
        (s'.lexedBy requests).length ≤ 1 := by
  intro text s s'
  have hs : Reachable text s := .step .token .fresh
  have hunread : Ahead.behindBlanks s.stream.unread = "/* /* */ a".toList := by decide +kernel
  have hr : Truncated (Ahead.behindBlanks s.stream.unread) ['a'] := by
    rw [hunread]
    refine .blockComment (CommentUnit.neverCloses_iff.2 ?_)
    exact Ahead.commentText_eq_none_iff.1 (by decide +kernel)
  obtain ⟨hanswer, -, -, -, -, -, hnext, hwithin⟩ := perform_token_truncated hs hr
  rw [hunread] at hanswer
  exact ⟨hs, hr, hanswer, hnext, hwithin⟩

/-- An open comment of one letter is not passed to its end: a token follows, and it is the letter. -/
theorem perform_token_truncated_leaves_letter :
    let text := "/*a".toList
    let s := ofStream (Stream.ofText text)
    let s' := (s.perform .token).2
    text = '/' :: '*' :: ['a'] ∧ CommentUnit.NeverCloses (CommentUnit.cut ['a']) ∧
      (s.perform .token).1 = .error (.lexing ⟨.noToken, .start⟩) ∧
      (s'.perform .hasNext).1 = .ok (.flag true) ∧ s'.stream.position.offset ≠ text.length ∧
      (s'.perform .token).1 = .ok (.token (.identifier "a")) := by
  have hopen : CommentUnit.NeverCloses (CommentUnit.cut ['a']) :=
    CommentUnit.neverCloses_iff.2 (Ahead.commentText_eq_none_iff.1 rfl)
  exact ⟨rfl, hopen, by decide +kernel⟩

end Session

end Lexis
