import Lexis.Proofs.Source.Operations

/-! # The account of a source that may fail

Over a source that fails now and then, a call may stop half way: a look ahead with part of what it
wanted in the buffer, a read with part of it consumed. Nothing is lost or doubled by that. At any time
the characters that the reads of the source have brought are the consumed characters and then those
in the buffer, in this order (`Stream.Accounts`), and no read is made behind one that brought no data.

An account names the reads made so far and the characters consumed so far. Each operation adds to
both what it did (`Stream.Moves`), and this is the same whether it returns or fails
(`Stream.Leaves`). What a read consumes is said on its own, character by character, because a read
that stops half way does not answer it (`Stream.taken`). -/

namespace Lexis

namespace Event

/-- The character that a read brings, if it brings one. -/
def char? : Event → Option Char
  | char c => some c
  | noData | failure _ => none

/-- The characters that the reads brought. -/
def delivered (reads : List Event) : List Char := reads.filterMap char?

@[simp] theorem delivered_append (first second : List Event) :
    delivered (first ++ second) = delivered first ++ delivered second :=
  List.filterMap_append

end Event

namespace Stream

/-- The stream has made the given reads of a source that brings the events and then no data. A read
that brings no data is the last one. -/
structure HasRead (s : Stream) (events reads : List Event) : Prop where
  script : reads <+: events ++ [.noData]
  pending : s.pending = events.drop reads.length
  ended : s.exhausted = true ↔ .noData ∈ reads
  once : .noData ∉ reads.dropLast

/-- **The account.** What the reads brought is what was consumed and then what lies in the buffer, and
the position is that behind the consumed characters. -/
structure Accounts (s : Stream) (events reads : List Event) (consumed : List Char) : Prop
    extends s.HasRead events reads where
  delivered : Event.delivered reads = consumed ++ s.buffer
  position : s.position = Position.start.advance consumed

variable {s s' s'' : Stream} {events reads more : List Event} {consumed : List Char}

theorem accounts_ofEvents (events : List Event) : (ofEvents events).Accounts events [] [] where
  script := List.nil_prefix
  pending := rfl
  ended := by simp [ofEvents]
  once := by simp
  delivered := rfl
  position := rfl

/-- The number of characters delivered is the offset of the position and the length of the buffer. -/
theorem Accounts.length_delivered (h : s.Accounts events reads consumed) :
    ((Event.delivered reads).length : Int) = s.position.offset + s.buffer.length := by
  rw [h.delivered, h.position, Position.offset_advance, List.length_append]
  simp [Position.start]

/-- Behind a read that brought no data no other is made. -/
theorem HasRead.more_eq_nil (h : s.HasRead events (reads ++ more)) (hended : .noData ∈ reads) :
    more = [] := by
  by_contra hmore
  have honce := h.once
  rw [List.dropLast_append_of_ne_nil hmore] at honce
  exact honce (List.mem_append_left _ hended)

/-! ### One read of the source -/

section HasRead
variable (h : s.HasRead events reads)
include h

theorem HasRead.noData_notMem (he : s.exhausted = false) : .noData ∉ reads := by
  rw [← h.ended, he]
  exact Bool.false_ne_true

/-- Until the source has ended, its script is the reads made and the pending ones. -/
theorem HasRead.events_eq (he : s.exhausted = false) : events = reads ++ s.pending := by
  have hnot := h.noData_notMem he
  rcases List.prefix_concat_iff.1 h.script with heq | ⟨rest, rfl⟩
  · rw [heq] at hnot
    exact absurd (List.mem_append_right _ List.mem_cons_self) hnot
  · rw [h.pending, List.drop_left]

/-- One more read is accounted for if it is the next of the script, and raises the flag exactly if
it brings no data. -/
theorem HasRead.extend {e : Event} (he : s.exhausted = false)
    (hscript : reads ++ [e] <+: events ++ [.noData])
    (hpending : s'.pending = events.drop (reads.length + 1))
    (hended : s'.exhausted = true ↔ e = .noData) : s'.HasRead events (reads ++ [e]) where
  script := hscript
  pending := by simpa using hpending
  ended := by
    have hnot := h.noData_notMem he
    rw [hended, List.mem_append, List.mem_singleton]
    exact ⟨fun heq => Or.inr heq.symm, fun hmem => (hmem.resolve_left hnot).symm⟩
  once := by
    rw [List.dropLast_concat]
    exact h.noData_notMem he

/-- The next event of the script is read. -/
theorem HasRead.extend_cons {e : Event} {rest : List Event} (he : s.exhausted = false)
    (hpending : s.pending = e :: rest) (hrest : s'.pending = rest)
    (hended : s'.exhausted = true ↔ e = .noData) : s'.HasRead events (reads ++ [e]) := by
  have hevents := h.events_eq he
  rw [hpending] at hevents
  refine h.extend he ?_ ?_ hended
  · exact ⟨rest ++ [.noData], by rw [hevents]; simp⟩
  · rw [hrest, hevents, ← List.drop_drop, List.drop_left, List.drop_one, List.tail_cons]

/-- A pull makes the read that it answers, and none if the source has ended. -/
theorem HasRead.pull :
    match Stream.pull s with
    | .ok (some c) s' => s'.HasRead events (reads ++ [.char c])
    | .ok none s' => s'.HasRead events (reads ++ if s.exhausted then [] else [.noData])
    | .error f s' => s'.HasRead events (reads ++ [.failure f.fault]) := by
  cases he : s.exhausted with
  | true => simpa [Stream.pull, he] using h
  | false =>
    simp only [Stream.pull, he, Bool.false_eq_true, if_false]
    cases hp : s.pending with
    | nil =>
      have hevents := h.events_eq he
      rw [hp, List.append_nil] at hevents
      refine h.extend he (hevents ▸ List.prefix_rfl) ?_ (by simp)
      rw [hevents, List.drop_eq_nil_of_le (Nat.le_succ _)]
    | cons e rest =>
      cases e with
      | char c => exact h.extend_cons he hp rfl (by simp)
      | noData => exact h.extend_cons he hp rfl (by simp)
      | failure fault => exact h.extend_cons he hp rfl (by simp)

end HasRead

/-! ### What the operations add to the account -/

/-- From the one stream to the other the reads `more` were made and `taken₁` was consumed. -/
def Moves (s : Stream) (more : List Event) (taken₁ : List Char) (s' : Stream) : Prop :=
  ∀ events reads consumed, s.Accounts events reads consumed →
    s'.Accounts events (reads ++ more) (consumed ++ taken₁)

theorem Moves.refl (s : Stream) : s.Moves [] [] s := by
  intro events reads consumed h
  rwa [List.append_nil, List.append_nil]

theorem Moves.trans {more₁ more₂ : List Event} {taken₁ taken₂ : List Char}
    (h₁ : s.Moves more₁ taken₁ s') (h₂ : s'.Moves more₂ taken₂ s'') :
    s.Moves (more₁ ++ more₂) (taken₁ ++ taken₂) s'' := by
  intro events reads consumed h
  rw [← List.append_assoc, ← List.append_assoc]
  exact h₂ _ _ _ (h₁ _ _ _ h)

/-- An operation, whether it returns or fails, has made the reads `more` and consumed `taken₁`. It
fails for the fault of the last read, and tells the position it stopped at. -/
def Leaves {α : Type} (s : Stream) (more : List Event) (taken₁ : List Char) :
    EStateM.Result ReadFailure Stream α → Prop
  | .ok _ s' => s.Moves more taken₁ s'
  | .error f s' =>
    s.Moves more taken₁ s' ∧ more.getLast? = some (.failure f.fault) ∧ f.position = s'.position

/-- What fails behind a move fails with the reads of both. -/
theorem Moves.leaves_error {more₁ more₂ : List Event} {taken₁ taken₂ : List Char} {α β : Type}
    {f : ReadFailure} (h₁ : s.Moves more₁ taken₁ s')
    (h₂ : Leaves (α := α) s' more₂ taken₂ (.error f s'')) :
    Leaves (α := β) s (more₁ ++ more₂) (taken₁ ++ taken₂) (.error f s'') := by
  obtain ⟨hmoves, hlast, hposition⟩ := h₂
  exact ⟨h₁.trans hmoves, by rw [List.getLast?_append, hlast, Option.some_or], hposition⟩

/-- The characters of a source come into the buffer, whatever else its reads bring. -/
theorem leaves_pull (s : Stream) :
    match pull s with
    | .ok (some c) s' => s.Moves [.char c] [] { s' with buffer := s'.buffer ++ [c] }
    | .ok none s' => ∃ more, s.Moves more [] s'
    | .error f s' => Leaves (α := Option Char) s [.failure f.fault] [] (.error f s') := by
  have hkeeps := pull_keeps s
  have hread := fun events reads (h : s.HasRead events reads) => h.pull
  split
  · rename_i c s' hp
    simp only [hp] at hkeeps hread
    obtain ⟨hbuffer, hposition⟩ := hkeeps
    intro events reads consumed h
    obtain ⟨hscript, hpending, hended, honce⟩ := hread _ _ h.toHasRead
    refine ⟨⟨hscript, hpending, hended, honce⟩, ?_, ?_⟩
    · rw [Event.delivered_append, h.delivered, hbuffer, List.append_nil, List.append_assoc]
      rfl
    · rw [List.append_nil, ← h.position, ← hposition]
  · rename_i s' hp
    simp only [hp] at hkeeps hread
    obtain ⟨hbuffer, hposition⟩ := hkeeps
    refine ⟨if s.exhausted then [] else [.noData], fun events reads consumed h => ?_⟩
    refine ⟨hread _ _ h.toHasRead, ?_, ?_⟩
    · rw [Event.delivered_append, h.delivered, hbuffer, List.append_nil]
      split_ifs <;> exact List.append_nil _
    · rw [List.append_nil, hposition, h.position]
  · rename_i f s' hp
    simp only [hp] at hkeeps hread
    obtain ⟨hbuffer, hposition, hfailure⟩ := hkeeps
    refine ⟨fun events reads consumed h => ?_, rfl, hfailure.trans hposition.symm⟩
    refine ⟨hread _ _ h.toHasRead, ?_, ?_⟩
    · rw [Event.delivered_append, h.delivered, hbuffer, List.append_nil]
      exact List.append_nil _
    · rw [List.append_nil, hposition, h.position]

/-- The first character of the buffer is consumed. -/
theorem moves_pass {c : Char} {rest : List Char} (hb : s.buffer = c :: rest) :
    s.Moves [] [c] (({ s with buffer := rest } : Stream).pass c) := by
  intro events reads consumed h
  rw [List.append_nil]
  refine ⟨⟨h.script, h.pending, h.ended, h.once⟩, ?_, ?_⟩
  · rw [h.delivered, hb, List.append_assoc]
    rfl
  · rw [Position.advance_append, ← h.position]
    rfl

/-- The characters that a read of `n` consumes one by one until it has them all, or is stopped by the
end or a failure of the source. -/
def taken : Nat → Stream → List Char
  | 0, _ => []
  | n + 1, s =>
    match next s with
    | .ok (some c) s' => c :: taken n s'
    | _ => []

/-- One step consumes what a read of one character does. -/
theorem leaves_next (s : Stream) : ∃ more, Leaves s more (taken 1 s) (next s) := by
  simp only [taken]
  cases hb : s.buffer with
  | cons c rest =>
    rw [next_of_cons hb]
    exact ⟨[], moves_pass hb⟩
  | nil =>
    have hpull := leaves_pull s
    have hkeeps := pull_keeps s
    cases hp : pull s with
    | error f s' =>
      have hn : next s = .error f s' := by rw [next_of_nil hb, hp]
      simp only [hp] at hpull
      rw [hn]
      exact ⟨_, hpull⟩
    | ok o s' =>
      simp only [hp] at hpull hkeeps
      cases o with
      | none =>
        have hn : next s = .ok none s' := by rw [next_of_nil hb, hp]
        rw [hn]
        exact hpull
      | some c =>
        have hn : next s = .ok (some c) (s'.pass c) := by rw [next_of_nil hb, hp]
        have hnil : s'.buffer = [] := hkeeps.1.trans hb
        have hbuffered : ({ s' with buffer := s'.buffer ++ [c] } : Stream).buffer = [c] := by
          show s'.buffer ++ [c] = [c]
          rw [hnil, List.nil_append]
        have hempty : ({ s' with buffer := [] } : Stream) = s' := by rw [← hnil]
        have hpass : s.Moves ([.char c] ++ []) ([] ++ [c])
            (({ s' with buffer := [] } : Stream).pass c) :=
          Moves.trans hpull (moves_pass hbuffered)
        rw [hempty] at hpass
        rw [hn]
        exact ⟨_, hpass⟩

/-- What a read answers is what it has consumed. -/
theorem taken_of_takeExactly : ∀ (n : Nat) {s s' : Stream} {cs : List Char},
    takeExactly n s = .ok (some cs) s' → taken n s = cs
  | 0, s, s', cs, h => by
    rw [takeExactly_zero] at h
    cases h
    rfl
  | n + 1, s, s', cs, h => by
    rw [takeExactly_succ] at h
    rw [taken]
    cases hn : next s with
    | error f s₁ => simp [hn] at h
    | ok o s₁ =>
      cases o with
      | none => simp [hn] at h
      | some c =>
        simp only [hn] at h
        cases ht : takeExactly n s₁ with
        | error f s₂ => simp [ht] at h
        | ok o s₂ =>
          simp only [ht, EStateM.Result.ok.injEq] at h
          obtain ⟨rest, rfl, rfl⟩ := Option.map_eq_some_iff.1 h.1
          simp only [taken_of_takeExactly n ht]

theorem leaves_takeExactly : ∀ (n : Nat) (s : Stream),
    ∃ more, Leaves s more (taken n s) (takeExactly n s)
  | 0, s => ⟨[], Moves.refl s⟩
  | n + 1, s => by
    obtain ⟨more, hmore⟩ := leaves_next s
    simp only [taken] at hmore
    rw [takeExactly_succ, taken]
    cases hn : next s with
    | error f s' =>
      rw [hn] at hmore
      exact ⟨more, hmore⟩
    | ok o s' =>
      rw [hn] at hmore
      cases o with
      | none => exact ⟨more, hmore⟩
      | some c =>
        obtain ⟨more', hmore'⟩ := leaves_takeExactly n s'
        refine ⟨more ++ more', ?_⟩
        simp only
        cases ht : takeExactly n s' with
        | ok o' s'' =>
          rw [ht] at hmore'
          exact Moves.trans hmore hmore'
        | error f s'' =>
          rw [ht] at hmore'
          exact Moves.leaves_error hmore hmore'

theorem leaves_fill : ∀ (n : Nat) (s : Stream), ∃ more, Leaves s more [] (fill n s)
  | 0, s => ⟨[], Moves.refl s⟩
  | n + 1, s => by
    have hpull := leaves_pull s
    rw [fill_succ]
    cases hp : pull s with
    | error f s' =>
      simp only [hp] at hpull
      exact ⟨_, hpull⟩
    | ok o s' =>
      simp only [hp] at hpull
      cases o with
      | none => exact hpull
      | some c =>
        obtain ⟨more, hmore⟩ := leaves_fill n { s' with buffer := s'.buffer ++ [c] }
        refine ⟨[.char c] ++ more, ?_⟩
        cases hf : fill n { s' with buffer := s'.buffer ++ [c] } with
        | ok filled s'' =>
          simp only [hf] at hmore ⊢
          exact Moves.trans hpull hmore
        | error f s'' =>
          simp only [hf] at hmore ⊢
          exact Moves.leaves_error hpull hmore

theorem leaves_peekExactly (n : Nat) (s : Stream) :
    ∃ more, Leaves s more [] (peekExactly n s) := by
  obtain ⟨more, hmore⟩ := leaves_fill (n - s.buffer.length) s
  rw [peekExactly_eq]
  cases hf : fill (n - s.buffer.length) s with
  | ok filled s' =>
    rw [hf] at hmore
    exact ⟨more, hmore⟩
  | error f s' =>
    rw [hf] at hmore
    exact ⟨more, hmore⟩

end Stream

namespace Call

/-- The characters that the call consumes. A look ahead consumes none. -/
def taken : Call → Stream → List Char
  | read n, s => Stream.taken n.toNat s
  | lookAhead _, _ => []

theorem taken_of_read {n : Int} {s s' : Stream} {cs : List Char}
    (h : (read n).reading s = .ok (some cs) s') : (read n).taken s = cs :=
  Stream.taken_of_takeExactly n.toNat h

/-- **What one call adds to the account.** -/
theorem leaves_reading : ∀ (call : Call) (s : Stream),
    ∃ more, Stream.Leaves s more (call.taken s) (call.reading s)
  | read n, s => Stream.leaves_takeExactly n.toNat s
  | lookAhead n, s => Stream.leaves_peekExactly n.toNat s

end Call

end Lexis
