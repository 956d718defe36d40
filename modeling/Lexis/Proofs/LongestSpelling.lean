import Lexis.Proofs.Session

/-! # The longest spelling

The forms of lexemes are tried in a fixed order, and no two spellings are ever compared. Yet the
spelling that is taken is the longest one at the front of the text, whatever token a longer or a
shorter one might spell. For suppose that a longer one stood there. It would be the spelling that was
taken and some more of the text, and the first character of what is more is one with which the
spelling taken does not go on. So in front of what is more both of them would be found, which cannot
be (`Spells.length_le_of_endsBefore`). -/

namespace Lexis

open CharClass Run

/-- A run that ends before a text ends before every beginning of it. -/
theorem Run.EndsBefore.of_front {p : Char → Bool} {w rest : List Char} (h : EndsBefore p rest)
    (hw : w <+: rest) : EndsBefore p w := by
  cases w with
  | nil => exact endsBefore_nil
  | cons c w =>
    obtain ⟨more, rfl⟩ := hw
    exact endsBefore_cons.2 (endsBefore_cons.1 h)

/-- One token at most stands at the front of a text, and one spelling of it. -/
theorem StandsBefore.unique {r rest rest' : List Char} {t t' : Token} (h : StandsBefore r t rest)
    (h' : StandsBefore r t' rest') : t = t' ∧ rest = rest' := by
  have hfound := (Ahead.lexeme_eq_found_some_iff.2 h).symm.trans
    (Ahead.lexeme_eq_found_some_iff.2 h')
  injection hfound with ht hrest
  exact ⟨Option.some.inj ht, hrest⟩

/-- **No spelling of any token is longer** than one that does not go on with what follows it. -/
theorem Spells.length_le_of_endsBefore {l l' rest : List Char} {t t' : Token} (hl : Spells l t)
    (hends : EndsBefore (goesOn l) rest) (hl' : Spells l' t') (hfront : l' <+: l ++ rest) :
    l'.length ≤ l.length := by
  by_contra hlonger
  obtain ⟨more, rfl⟩ : l <+: l' :=
    List.prefix_of_prefix_length_le (List.prefix_append l rest) hfront (by omega)
  have hmore : more <+: rest := (List.prefix_append_right_inj l).1 hfront
  have hstands : StandsBefore (l ++ more) t more := ⟨l, rfl, hl, hends.of_front hmore⟩
  obtain ⟨-, hnil⟩ := hstands.unique hl'.standsBefore_nil
  rw [hnil, List.append_nil] at hlonger
  exact hlonger le_rfl

/-- The text `l` is the longest beginning of `r` that spells a token. -/
structure IsLongestSpelling (r l : List Char) : Prop where
  front : l <+: r
  spells : ∃ t, Spells l t
  longest : ∀ l' t', l' <+: r → Spells l' t' → l'.length ≤ l.length

/-- What stands at the front of a text is the longest spelling there. -/
theorem StandsBefore.exists_isLongestSpelling {r rest : List Char} {t : Token}
    (h : StandsBefore r t rest) : ∃ l, r = l ++ rest ∧ Spells l t ∧ IsLongestSpelling r l := by
  obtain ⟨l, rfl, hl, hends⟩ := h
  exact ⟨l, rfl, hl, List.prefix_append l rest, ⟨t, hl⟩, fun l' t' hfront hl' =>
    hl.length_le_of_endsBefore hends hl' hfront⟩

namespace Session

/-- **The longest match is taken.** In every session that requests reach on a text, let `r` be what is
left of the text behind the blanks, and let a request for a token be answered by one. The part of `r`
that the request consumes spells that token and no other, and it is the longest beginning of `r`
that spells any token at all. -/
theorem perform_token_longest {text : List Char} {s : Session} {t : Token} (h : Reachable text s)
    (ht : (s.perform .token).1 = .ok (.token t)) :
    let r := Ahead.behindBlanks s.stream.unread
    let left := (s.perform .token).2.stream
    ∃ l, r = l ++ left.unread ∧ left.position = (Position.ofSuffix text r).advance l ∧
      Spells l t ∧ (∀ t', Spells l t' → t' = t) ∧ IsLongestSpelling r l := by
  intro r left
  obtain ⟨ahead, hat⟩ := h.exists_at
  obtain ⟨rest, hleft⟩ := perform_at hat .token
  obtain rfl : left.unread = rest := hleft.unread_eq
  have hr : r = Ahead.behindBlanks ahead := by rw [← hat.unread_eq]
  have hstands : StandsBefore r t left.unread := by
    rw [hr, ← Ahead.whole_eq_found_iff, ← perform_token_eq_ok_iff hat]
    exact ⟨ht, rfl⟩
  obtain ⟨l, hsplit, hl, hlongest⟩ := hstands.exists_isLongestSpelling
  refine ⟨l, hsplit, ?_, hl, fun t' hl' => ?_, hlongest⟩
  · obtain ⟨before, htext⟩ : r <:+ text := hr ▸ (List.dropWhile_suffix _).trans hat.suffix
    rw [hleft.position, ← htext, Position.ofSuffix_append, ← Position.advance_append, hsplit,
      ← List.append_assoc, Position.ofSuffix_append]
  · exact (hl'.standsBefore_nil.unique hl.standsBefore_nil).1

/-- Behind a first word, three beginnings of the text spell tokens: a word and two versions. The
version that ends in its point is taken. -/
theorem perform_token_longest_of_version :
    let text := "a v1.x".toList
    let s := ((ofStream (Stream.ofText text)).perform .token).2
    Reachable text s ∧ (s.perform .token).1 = .ok (.token (.version (.finite false 1 0))) ∧
      Ahead.behindBlanks s.stream.unread = "v1.x".toList ∧
      (s.perform .token).2.stream.unread = ['x'] ∧
      IsLongestSpelling "v1.x".toList "v1.".toList := by
  intro text s
  have hs : Reachable text s := .step .token .fresh
  have ht : (s.perform .token).1 = .ok (.token (.version (.finite false 1 0))) := by decide +kernel
  have hr : Ahead.behindBlanks s.stream.unread = "v1.x".toList := by decide +kernel
  have hleft : (s.perform .token).2.stream.unread = ['x'] := by decide +kernel
  obtain ⟨l, hsplit, -, -, -, hlongest⟩ := perform_token_longest hs ht
  rw [hr, hleft] at hsplit
  rw [hr] at hlongest
  have hl : "v1.".toList ++ ['x'] = l ++ ['x'] := Eq.trans (by decide) hsplit
  rw [← List.append_cancel_right hl] at hlongest
  exact ⟨hs, ht, hr, hleft, hlongest⟩

end Session

end Lexis
