import Lexis.Proofs.Source.Account
import Lexis.Session

/-! # How far the source is read ahead

A lexer decides on the next one or two characters, and a stream reads its source no further than it
is asked to look. So no more than one character is ever left in the buffer between two requests,
also when a request is refused half way, be it for the text or for a failure of the source
(`Session.performAll_settles`). Together with the account of the source this bounds the reads that
have brought a character: they are at most one more than the characters consumed
(`Session.lexing_reads_one_ahead`).

Within a request the bound is two, since a form may need its second character to be known. A scan is
described by the number of characters that it may find in the buffer, and the number that it leaves
there in turn (`Buffers`). A look at two characters can only fail before the second of them has been
read, and whoever has seen two takes at least one before the next look. -/

namespace Lexis

open CharClass

namespace Stream

variable {s s' s'' : Stream}

/-! ### The length of the buffer -/

/-- A character is taken from the buffer as long as there is one, and this never fails. -/
theorem length_next (s : Stream) :
    match next s with
    | .ok (some _) s' => s'.buffer.length = s.buffer.length - 1
    | .ok none s' | .error _ s' => s'.buffer = [] := by
  cases hb : s.buffer with
  | cons c rest =>
    rw [next_of_cons hb]
    rfl
  | nil =>
    have hkeeps := pull_keeps s
    rw [hb] at hkeeps
    rw [next_of_nil hb]
    cases hp : pull s with
    | error e s' =>
      simp only [hp] at hkeeps
      exact hkeeps.1
    | ok o s' =>
      simp only [hp] at hkeeps
      cases o with
      | none => exact hkeeps.1
      | some c => exact congrArg List.length hkeeps.1

theorem length_takeExactly : ∀ (n : Nat) (s : Stream),
    match takeExactly n s with
    | .ok _ s' => s'.buffer.length ≤ s.buffer.length - n
    | .error _ s' => s'.buffer = []
  | 0, s => Nat.le_refl _
  | n + 1, s => by
    have hnext := length_next s
    rw [takeExactly_succ]
    cases hn : next s with
    | error e s' =>
      simp only [hn] at hnext
      exact hnext
    | ok o s' =>
      simp only [hn] at hnext
      cases o with
      | none =>
        simp only at hnext ⊢
        simp [hnext]
      | some c =>
        have hrest := length_takeExactly n s'
        cases ht : takeExactly n s' with
        | error e s'' =>
          simp only [ht] at hrest ⊢
          exact hrest
        | ok o s'' =>
          simp only [ht] at hnext hrest ⊢
          omega

/-- Only a fill that reaches its end has moved all the characters. -/
theorem length_fill : ∀ (n : Nat) (s : Stream),
    match fill n s with
    | .ok true s' => s'.buffer.length = s.buffer.length + n
    | .ok false s' | .error _ s' => s'.buffer.length < s.buffer.length + n
  | 0, s => rfl
  | n + 1, s => by
    have hkeeps := pull_keeps s
    rw [fill_succ]
    cases hp : pull s with
    | error e s' =>
      simp only [hp] at hkeeps ⊢
      rw [hkeeps.1]
      omega
    | ok o s' =>
      simp only [hp] at hkeeps
      cases o with
      | none =>
        simp only
        rw [hkeeps.1]
        omega
      | some c =>
        have hrest := length_fill n { s' with buffer := s'.buffer ++ [c] }
        have hlength : (s'.buffer ++ [c]).length = s.buffer.length + 1 := by
          rw [List.length_append, hkeeps.1, List.length_singleton]
        simp only at hrest ⊢
        rw [hlength, Nat.add_right_comm, Nat.add_assoc] at hrest
        exact hrest

/-- A look ahead leaves as many characters in the buffer as it has shown, or those that it found. If
it shows none, or fails, it has not come to the last one. -/
theorem length_peekExactly (n : Nat) (s : Stream) :
    match peekExactly n s with
    | .ok (some cs) s' => s'.buffer.length = max s.buffer.length n ∧ cs.length = n
    | .ok none s' | .error _ s' => s'.buffer.length < n := by
  have hfill := length_fill (n - s.buffer.length) s
  rw [peekExactly_eq]
  by_cases hle : n ≤ s.buffer.length
  · rw [Nat.sub_eq_zero_of_le hle, fill_zero]
    simp
    omega
  · have hsum : s.buffer.length + (n - s.buffer.length) = n := by omega
    rw [hsum] at hfill
    cases hf : fill (n - s.buffer.length) s with
    | error e s' =>
      simp only [hf] at hfill ⊢
      exact hfill
    | ok filled s' =>
      simp only [hf] at hfill
      cases filled with
      | false => exact hfill
      | true =>
        simp only at hfill
        simp [hfill]
        omega

/-- The one stream has become the other by reading and consuming. -/
def Reaches (s s' : Stream) : Prop := ∃ more taken, s.Moves more taken s'

theorem Reaches.refl (s : Stream) : s.Reaches s := ⟨[], [], .refl s⟩

theorem Reaches.trans (h : s.Reaches s') (h' : s'.Reaches s'') : s.Reaches s'' := by
  obtain ⟨more, taken, hmoves⟩ := h
  obtain ⟨more', taken', hmoves'⟩ := h'
  exact ⟨_, _, hmoves.trans hmoves'⟩

/-- The one stream reaches the other, which has at most one character ahead. -/
structure Settles (s s' : Stream) : Prop where
  reaches : s.Reaches s'
  ahead : s'.buffer.length ≤ 1

theorem Settles.refl (h : s.buffer.length ≤ 1) : s.Settles s := ⟨.refl s, h⟩

theorem Settles.trans (h : s.Settles s') (h' : s'.Settles s'') : s.Settles s'' :=
  ⟨h.reaches.trans h'.reaches, h'.ahead⟩

end Stream

/-! ### Operations that find and leave a number of characters -/

section Buffers
variable {ε α β : Type} {m : EStateM ε Stream α} {held : Nat} {kept : α → Nat}

/-- Begun with at most `held` characters in the buffer, the operation leaves at most `kept a` there
when it answers `a`, and at most one when it fails. Either way it has only read and consumed. -/
def Buffers (m : EStateM ε Stream α) (held : Nat) (kept : α → Nat) : Prop :=
  ∀ s : Stream, s.buffer.length ≤ held →
    match m s with
    | .ok a s' => s.Reaches s' ∧ s'.buffer.length ≤ kept a
    | .error _ s' => s.Settles s'

theorem Buffers.pure {a : α} (h : held ≤ kept a) :
    Buffers (Pure.pure a : EStateM ε Stream α) held kept :=
  fun s hs => ⟨.refl s, Nat.le_trans hs h⟩

theorem Buffers.bind {f : α → EStateM ε Stream β} {kept' : β → Nat} (hm : Buffers m held kept)
    (hf : ∀ a, Buffers (f a) (kept a) kept') : Buffers (m >>= f) held kept' := by
  intro s hs
  have hfirst := hm s hs
  cases hr : m s with
  | error e s' =>
    have hrun : (m >>= f) s = .error e s' := by simp only [Bind.bind, EStateM.bind, hr]
    rw [hr] at hfirst
    rw [hrun]
    exact hfirst
  | ok a s' =>
    have hrun : (m >>= f) s = f a s' := by simp only [Bind.bind, EStateM.bind, hr]
    rw [hr] at hfirst
    rw [hrun]
    have hsecond := hf a s' hfirst.2
    cases hr' : f a s' with
    | error e s'' =>
      rw [hr'] at hsecond
      exact ⟨hfirst.1.trans hsecond.1, hsecond.2⟩
    | ok b s'' =>
      rw [hr'] at hsecond
      exact ⟨hfirst.1.trans hsecond.1, hsecond.2⟩

/-- An operation may find less than it can do with. -/
theorem Buffers.of_le {held' : Nat} (h : Buffers m held kept) (hle : held' ≤ held) :
    Buffers m held' kept :=
  fun s hs => h s (Nat.le_trans hs hle)

theorem Buffers.map {n : Nat} (f : α → β) (h : Buffers m held fun _ => n) :
    Buffers (f <$> m) held fun _ => n := by
  rw [map_eq_pure_bind]
  exact h.bind fun _ => .pure (Nat.le_refl _)

/-- Reads that keep the account are judged by the length of the buffer. -/
theorem buffers_of_leaves {r : Reading α}
    (hleaves : ∀ s, ∃ more taken, Stream.Leaves s more taken (r s))
    (hlength : ∀ s, s.buffer.length ≤ held →
      match r s with
      | .ok a s' => s'.buffer.length ≤ kept a
      | .error _ s' => s'.buffer.length ≤ 1) : Buffers r held kept := by
  intro s hs
  have hle := hlength s hs
  obtain ⟨more, taken, hmoves⟩ := hleaves s
  cases hr : r s with
  | error e s' =>
    rw [hr] at hle hmoves
    exact ⟨⟨more, taken, hmoves.1⟩, hle⟩
  | ok a s' =>
    rw [hr] at hle hmoves
    exact ⟨⟨more, taken, hmoves⟩, hle⟩

end Buffers

/-! ### Scans -/

namespace Scan

variable {α β : Type} {held : Nat} {kept : α → Nat}

theorem buffers_ofReading {r : Reading α} (h : Buffers r held kept) :
    Buffers (ofReading r) held kept := by
  intro s hs
  have hr := h s hs
  simp only [ofReading, EStateM.adaptExcept]
  cases hs' : r s with
  | error e s' =>
    rw [hs'] at hr
    exact hr
  | ok a s' =>
    rw [hs'] at hr
    exact hr

theorem buffers_position (held : Nat) : Buffers position held fun _ => held :=
  fun s hs => ⟨.refl s, hs⟩

theorem buffers_fail (cause : Cause) (p : Position) : Buffers (fail cause p) 1 kept :=
  fun s hs => ⟨.refl s, hs⟩

theorem buffers_next (held : Nat) : Buffers next (held + 1) fun _ => held := by
  refine buffers_ofReading (buffers_of_leaves (fun s => ?_) fun s hs => ?_)
  · obtain ⟨more, hmore⟩ := Stream.leaves_next s
    exact ⟨more, _, hmore⟩
  · have hnext := Stream.length_next s
    cases hn : Stream.next s with
    | error e s' =>
      simp only [hn] at hnext
      simp [hnext]
    | ok o s' =>
      simp only [hn] at hnext
      cases o with
      | none => simp [show s'.buffer = [] from hnext]
      | some c =>
        simp only at hnext ⊢
        omega

theorem buffers_skip (n held : Nat) : Buffers (skip n) (held + n) fun _ => held := by
  have htakes : Buffers (Stream.takeExactly n) (held + n) fun _ => held := by
    refine buffers_of_leaves (fun s => ?_) fun s hs => ?_
    · obtain ⟨more, hmore⟩ := Stream.leaves_takeExactly n s
      exact ⟨more, _, hmore⟩
    · have htake := Stream.length_takeExactly n s
      cases ht : Stream.takeExactly n s with
      | error e s' =>
        simp only [ht] at htake
        simp [htake]
      | ok o s' =>
        simp only [ht] at htake ⊢
        omega
  exact (buffers_ofReading htakes).map _

/-- A look at no more than two characters fails before the second of them has been read. -/
theorem buffers_peekExactly {n : Nat} (hn : n ≤ 2) (held : Nat) :
    Buffers (Stream.peekExactly n) held fun o => if o.isSome then max held n else 1 := by
  refine buffers_of_leaves (fun s => ?_) fun s hs => ?_
  · obtain ⟨more, hmore⟩ := Stream.leaves_peekExactly n s
    exact ⟨more, _, hmore⟩
  · have hpeek := Stream.length_peekExactly n s
    cases hp : Stream.peekExactly n s with
    | error e s' =>
      simp only [hp] at hpeek ⊢
      omega
    | ok o s' =>
      simp only [hp] at hpeek
      cases o with
      | none =>
        simp at hpeek ⊢
        omega
      | some cs =>
        simp at hpeek ⊢
        omega

theorem buffers_peek (held : Nat) : Buffers peek (held + 1) fun _ => held + 1 := by
  have hpeek := buffers_peekExactly (show 1 ≤ 2 by omega) (held + 1)
  refine buffers_ofReading (hpeek.bind fun o => .pure ?_)
  cases o with
  | none => exact Nat.succ_le_succ (Nat.zero_le _)
  | some cs => exact Nat.max_le.2 ⟨Nat.le_refl _, Nat.succ_le_succ (Nat.zero_le _)⟩

/-- Whoever has looked at two characters finds them in the buffer. -/
theorem buffers_peekPair : Buffers peekPair 1 fun o => if o.isSome then 2 else 1 := by
  intro s hs
  have hpeek := (buffers_ofReading (buffers_peekExactly (Nat.le_refl 2) 1)) s hs
  have hlength := Stream.length_peekExactly 2 s
  simp only [peekPair, Bind.bind, EStateM.bind]
  simp only [ofReading, EStateM.adaptExcept] at hpeek ⊢
  cases hp : Stream.peekExactly 2 s with
  | error e s' =>
    simp only [hp] at hpeek
    exact hpeek
  | ok o s' =>
    simp only [hp] at hpeek hlength
    cases o with
    | none => exact hpeek
    | some cs =>
      obtain ⟨c, d, rfl⟩ := List.length_eq_two.1 hlength.2
      exact hpeek

theorem buffers_bounded {loop : Nat → Scan α} (h : ∀ bound, Buffers (loop bound) held kept) :
    Buffers (bounded loop) held kept :=
  fun s hs => h _ s hs

/-! ### Runs -/

/-- A round of a run looks at one character and takes it, or stops. -/
theorem buffers_runWithin (p : Char → Bool) : ∀ bound, Buffers (runWithin p bound) 1 fun _ => 1
  | 0 => .pure (Nat.le_refl _)
  | bound + 1 => by
    refine (buffers_peek 0).bind fun o => ?_
    cases o with
    | none => exact .pure (Nat.le_refl _)
    | some c =>
      simp only
      split
      · have hrest := (buffers_runWithin p bound).of_le (Nat.zero_le 1)
        exact (buffers_skip 1 0).bind fun _ => hrest.bind fun _ => .pure (Nat.le_refl _)
      · exact .pure (Nat.le_refl _)

theorem buffers_run (p : Char → Bool) : Buffers (run p) 1 fun _ => 1 :=
  buffers_bounded (buffers_runWithin p)

/-! ### Lexemes -/

theorem buffers_word (c : Char) : Buffers (word c) 2 fun _ => 1 :=
  (buffers_skip 1 1).bind fun _ => (buffers_run _).bind fun _ => .pure (Nat.le_refl _)

theorem buffers_numeral : Buffers numeral 2 fun _ => 1 := by
  refine (buffers_position 2).bind fun start => (buffers_next 1).bind fun o => ?_
  cases o with
  | none => exact .pure (Nat.le_refl _)
  | some c =>
    refine (buffers_run _).bind fun rest => ?_
    simp only
    split
    · exact .pure (Nat.le_refl _)
    · exact buffers_fail _ _

theorem buffers_number : Buffers number 2 fun _ => 1 := by
  refine (buffers_peek 1).bind fun first => ?_
  simp only
  split
  · exact (buffers_skip 1 1).bind fun _ =>
      (buffers_numeral.of_le (Nat.le_succ 1)).bind fun _ => .pure (Nat.le_refl _)
  · exact buffers_numeral.bind fun _ => .pure (Nat.le_refl _)

theorem buffers_version : Buffers version 2 fun _ => 1 :=
  (buffers_skip 1 1).bind fun _ =>
    (buffers_numeral.of_le (by omega)).bind fun _ => .pure (Nat.le_refl _)

theorem buffers_quotedTextWithin : ∀ bound, Buffers (quotedTextWithin bound) 1 fun _ => 1
  | 0 => .pure (Nat.le_refl _)
  | bound + 1 => by
    refine (buffers_next 0).bind fun o => ?_
    cases o with
    | none => exact .pure (Nat.zero_le _)
    | some c =>
      simp only
      split
      · exact .pure (Nat.zero_le _)
      · have hrest := (buffers_quotedTextWithin bound).of_le (Nat.zero_le 1)
        exact hrest.bind fun _ => .pure (Nat.le_refl _)

theorem buffers_string : Buffers string 2 fun _ => 1 :=
  (buffers_skip 1 1).bind fun _ =>
    (buffers_bounded buffers_quotedTextWithin).bind fun _ => .pure (Nat.le_refl _)

theorem buffers_interpolated : Buffers interpolated 2 fun _ => 1 := by
  refine (buffers_skip 1 1).bind fun _ => (buffers_peek 0).bind fun o => ?_
  split
  · exact buffers_string.of_le (by omega)
  · exact .pure (Nat.le_refl _)

theorem buffers_charLiteral : Buffers charLiteral 2 fun _ => 1 := by
  refine (buffers_skip 1 1).bind fun _ => (buffers_next 0).bind fun o => ?_
  cases o with
  | none => exact .pure (Nat.zero_le _)
  | some c => exact ((buffers_next 0).of_le (Nat.zero_le 1)).bind fun _ => .pure (Nat.zero_le _)

theorem buffers_lineComment : Buffers lineComment 2 fun _ => 1 :=
  (buffers_skip 2 0).bind fun _ =>
    ((buffers_run _).of_le (Nat.zero_le 1)).bind fun _ => .pure (Nat.le_refl _)

theorem buffers_commentTextWithin : ∀ bound depth,
    Buffers (commentTextWithin bound depth) 1 fun _ => 1
  | 0, _ => .pure (Nat.le_refl _)
  | bound + 1, depth => by
    refine buffers_peekPair.bind fun o => ?_
    have hrest := fun depth => (buffers_commentTextWithin bound depth).of_le (Nat.zero_le 1)
    split
    · exact .pure (Nat.le_refl _)
    · exact (buffers_skip 2 0).bind fun _ => (hrest _).bind fun _ => .pure (Nat.le_refl _)
    · refine (buffers_skip 2 0).bind fun _ => ?_
      cases depth with
      | zero => exact .pure (Nat.zero_le _)
      | succ depth => exact (hrest _).bind fun _ => .pure (Nat.le_refl _)
    · exact (buffers_skip 1 1).bind fun _ =>
        (buffers_commentTextWithin bound depth).bind fun _ => .pure (Nat.le_refl _)

theorem buffers_blockComment : Buffers blockComment 2 fun _ => 1 :=
  (buffers_skip 2 0).bind fun _ =>
    ((buffers_bounded fun bound => buffers_commentTextWithin bound 0).of_le (Nat.zero_le 1)).bind
      fun _ => .pure (Nat.le_refl _)

theorem buffers_completion (c : Char) : Buffers (completion c) 1 fun _ => 1 := by
  refine (buffers_peek 0).bind fun o => ?_
  split
  · exact .pure (Nat.le_refl _)
  · exact (buffers_skip 1 0).bind fun _ => .pure (Nat.zero_le _)

theorem buffers_sign : Buffers sign 2 fun _ => 1 := by
  refine (buffers_position 2).bind fun start => (buffers_next 1).bind fun o => ?_
  cases o with
  | none => exact .pure (Nat.le_refl _)
  | some c =>
    simp only
    split
    · exact buffers_fail _ _
    · split
      · exact (buffers_completion c).bind fun _ => .pure (Nat.le_refl _)
      · exact .pure (Nat.le_refl _)

/-- The form is found by a look at one character or at two. -/
theorem buffers_form (c : Char) : Buffers (form c) 1 fun _ => 2 := by
  unfold form
  split
  · refine buffers_peekPair.bind fun o => .pure ?_
    split <;> omega
  · exact .pure (Nat.le_succ 1)

/-- **A lexeme of any form** takes at least one of the characters that were looked at for its form,
and leaves no more than one behind it. -/
theorem buffers_lexemeOf (c : Char) : ∀ f : Form, Buffers (lexemeOf c f) 2 fun _ => 1
  | .version => buffers_version
  | .word => (buffers_word c).map some
  | .string => buffers_string
  | .interpolated => buffers_interpolated
  | .charLiteral => buffers_charLiteral
  | .number => buffers_number
  | .blockComment => buffers_blockComment
  | .lineComment => buffers_lineComment.map some
  | .sign => buffers_sign

theorem buffers_lexeme : Buffers lexeme 1 fun _ => 1 := by
  refine (buffers_peek 0).bind fun o => ?_
  cases o with
  | none => exact .pure (Nat.le_refl _)
  | some c => exact (buffers_form c).bind fun f => buffers_lexemeOf c f

theorem buffers_skipBlanks : Buffers skipBlanks 1 fun _ => 1 :=
  (buffers_run isBlank).map fun _ => ()

theorem buffers_hasNext : Buffers hasNext 1 fun _ => 1 :=
  buffers_skipBlanks.bind fun _ s hs => ⟨.refl s, hs⟩

theorem buffers_token : Buffers token 1 fun _ => 1 := by
  refine buffers_skipBlanks.bind fun _ => (buffers_position 1).bind fun start =>
    buffers_lexeme.bind fun t => ?_
  cases t with
  | none => exact buffers_fail _ _
  | some t => exact .pure (Nat.le_refl _)

theorem buffers_token? : Buffers token? 1 fun _ => 1 := by
  refine buffers_hasNext.bind fun more => ?_
  cases more
  · exact .pure (Nat.le_refl _)
  · exact buffers_token.bind fun _ => .pure (Nat.le_refl _)

theorem buffers_positioned? : Buffers positioned? 1 fun _ => 1 := by
  refine buffers_hasNext.bind fun more => ?_
  cases more
  · exact .pure (Nat.le_refl _)
  · exact (buffers_position 1).bind fun start => buffers_token.bind fun _ => .pure (Nat.le_refl _)

/-- By induction on the rounds, each of which scans one token. -/
theorem buffers_tokensWithin : ∀ bound, Buffers (tokensWithin bound) 1 fun _ => 1
  | 0 => .pure (Nat.le_refl _)
  | bound + 1 => by
    refine buffers_token?.bind fun o => ?_
    cases o with
    | none => exact .pure (Nat.le_refl _)
    | some t => exact (buffers_tokensWithin bound).bind fun _ => .pure (Nat.le_refl _)

theorem buffers_tokens : Buffers tokens 1 fun _ => 1 := buffers_bounded buffers_tokensWithin

end Scan

/-! ### Sessions -/

/-- Whatever a scan with room for one character answers, it settles. -/
theorem Buffers.settles {α : Type} {scan : Scan α} {s : Stream} (h : Buffers scan 1 fun _ => 1)
    (hs : s.buffer.length ≤ 1) :
    match scan s with
    | .ok _ s' => s.Settles s'
    | .error _ s' => s.Settles s' := by
  have hrun := h s hs
  cases hr : scan s with
  | ok a s' =>
    rw [hr] at hrun
    exact ⟨hrun.1, hrun.2⟩
  | error e s' =>
    rw [hr] at hrun
    exact hrun

/-- The request is one to the lexer, and does not go past it to the stream. -/
def Request.isLexing : Request → Bool
  | .hasNext | .token | .next | .all | .walk | .freshWalk => true
  | .read _ | .lookAhead _ => false

namespace Session

variable {s : Session}

theorem answer_settles {α : Type} {scan : Scan α} (h : Buffers scan 1 fun _ => 1)
    (reply : α → Reply) (hs : s.stream.buffer.length ≤ 1) :
    s.stream.Settles (s.answer scan reply).2.stream := by
  have hscan := h.settles hs
  rw [answer]
  cases hr : scan s.stream with
  | ok a rest =>
    rw [hr] at hscan
    exact hscan
  | error e rest =>
    rw [hr] at hscan
    exact hscan

/-- A step of a walk that is over reads nothing. -/
theorem stepWalk_settles (hs : s.stream.buffer.length ≤ 1) :
    s.stream.Settles s.stepWalk.2.stream := by
  have hscan := Scan.buffers_positioned?.settles hs
  rw [stepWalk]
  split
  · exact .refl hs
  · cases hr : Scan.positioned? s.stream with
    | error e rest =>
      rw [hr] at hscan
      exact hscan
    | ok o rest =>
      rw [hr] at hscan
      cases o with
      | none => exact hscan
      | some t => exact hscan

/-- **One request** to the lexer, answered or refused. -/
theorem perform_settles (hs : s.stream.buffer.length ≤ 1) :
    ∀ request : Request, request.isLexing = true →
      s.stream.Settles (s.perform request).2.stream
  | .hasNext, _ => answer_settles Scan.buffers_hasNext _ hs
  | .token, _ => answer_settles Scan.buffers_token _ hs
  | .next, _ => answer_settles Scan.buffers_token? _ hs
  | .all, _ => answer_settles Scan.buffers_tokens _ hs
  | .walk, _ => stepWalk_settles hs
  | .freshWalk, _ => .refl hs

/-- **A sequence of requests** to the lexer: each of them finds at most one character ahead, and
leaves at most one. -/
theorem performAll_settles {requests : List Request} (hs : s.stream.buffer.length ≤ 1)
    (hlexing : ∀ request ∈ requests, request.isLexing = true) :
    ∀ answer ∈ s.performAll requests, s.stream.Settles answer.2.stream := by
  induction requests generalizing s with
  | nil => simp [performAll]
  | cons request later ih =>
    have hfirst := perform_settles hs request (hlexing _ List.mem_cons_self)
    have hlater := ih hfirst.ahead fun r hr => hlexing r (List.mem_cons_of_mem _ hr)
    intro answer hanswer
    rw [performAll] at hanswer
    cases hanswer with
    | head => exact hfirst
    | tail _ hmem => exact hfirst.trans (hlater answer hmem)

/-- **No more than one character is read ahead.** Over a source with any events, and for any
requests to the lexer, every request leaves at most one character in the buffer, be it answered or
refused. The reads made by then have an account, and by any account of them at most one more has
brought a character than have been consumed. -/
theorem lexing_reads_one_ahead (events : List Event) (requests : List Request)
    (hlexing : ∀ request ∈ requests, request.isLexing = true) :
    ∀ answer ∈ (ofStream (Stream.ofEvents events)).performAll requests,
      let s := answer.2.stream
      s.buffer.length ≤ 1 ∧ (∃ reads consumed, s.Accounts events reads consumed) ∧
        ∀ reads consumed, s.Accounts events reads consumed →
          ((Event.delivered reads).length : Int) ≤ s.position.offset + 1 := by
  intro answer hanswer s
  have hfresh : (ofStream (Stream.ofEvents events)).stream.buffer.length ≤ 1 := Nat.zero_le 1
  have hsettles : (Stream.ofEvents events).Settles s :=
    performAll_settles hfresh hlexing answer hanswer
  obtain ⟨more, taken, hmoves⟩ := hsettles.reaches
  refine ⟨hsettles.ahead, ?_, fun reads consumed haccount => ?_⟩
  · exact ⟨_, _, hmoves events [] [] (Stream.accounts_ofEvents events)⟩
  · have hahead := hsettles.ahead
    rw [haccount.length_delivered]
    omega

/-- The second character of a version cannot be read at first. The letter stays ahead, and the
version is found when the request is made again. The sign behind it is then the one ahead. -/
theorem lexing_reads_one_ahead_of_retry :
    let events : List Event := [.char 'v', .failure .system, .char '1', .char '+', .char '2']
    let answers := (ofStream (Stream.ofEvents events)).performAll [.token, .token]
    answers.map (·.1.toBool) = [false, true] ∧
      answers.map (·.2.stream.buffer) = [['v'], ['+']] ∧
      ∀ answer ∈ answers, ∀ reads consumed, answer.2.stream.Accounts events reads consumed →
        ((Event.delivered reads).length : Int) ≤ answer.2.stream.position.offset + 1 := by
  intro events answers
  refine ⟨by decide +kernel, by decide +kernel, fun answer hanswer => ?_⟩
  exact (lexing_reads_one_ahead events [.token, .token] (by decide) answer hanswer).2.2

end Session

end Lexis
