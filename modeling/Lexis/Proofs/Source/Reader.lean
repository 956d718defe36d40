import Lexis.Proofs.Source.Operations

/-! # A stream over a text is a text and an offset

A `TextReader` is a text and the number of its characters that have been consumed. It has no buffer
and no flag: a call is answered by the slice of the text that begins at the offset, and only a read
moves the offset. A session over the text follows the reader through every sequence of calls
(`Session.Follows`): it gives the same answers and has the same position, however the buffer lies.
The one thing that the reader does not hold is whether the stream knows that it is empty, which is a
matter of history: the end is known from the first call on that asked for more than there was. -/

namespace Lexis

/-- A text and the number of its characters that have been consumed. -/
structure TextReader where
  text : List Char
  offset : Nat
  offset_le : offset ≤ text.length

namespace TextReader

/-- The reader in front of a text. -/
def start (text : List Char) : TextReader := ⟨text, 0, Nat.zero_le _⟩

/-- The text that is still to be consumed. -/
def ahead (r : TextReader) : List Char := r.text.drop r.offset

/-- The `n` characters from the offset on; none if there are fewer. A count below one asks for
nothing. -/
def slice (r : TextReader) (n : Int) : Option (List Char) :=
  if n ≤ 0 then some []
  else if r.offset + n ≤ r.text.length then some (r.text.extract r.offset (r.offset + n.toNat))
  else none

/-- The reader behind a call. A read moves on by its count, or to the end; a look ahead moves
nothing. -/
def after (r : TextReader) : Call → TextReader
  | .read n => ⟨r.text, min (r.offset + n.toNat) r.text.length, Nat.min_le_right _ _⟩
  | .lookAhead _ => r

/-- The reader behind a sequence of calls. -/
def afterAll (r : TextReader) (calls : List Call) : TextReader := calls.foldl after r

/-- The call asks for more characters than there are. -/
def Overruns (r : TextReader) (call : Call) : Prop :=
  (r.text.length : Int) < r.offset + call.count

/-- Some call of the sequence asked for more characters than there were when it was made. -/
def Overran (r : TextReader) (calls : List Call) : Prop :=
  ∃ before call later, calls = before ++ call :: later ∧ (r.afterAll before).Overruns call

/-- The answers to a sequence of calls, each with the position behind it. -/
def trace (r : TextReader) : List Call → List (Except Failure Reply × Position)
  | [] => []
  | call :: rest =>
    (.ok (.chars (r.slice call.count)),
      Position.start.advance (r.text.take (r.after call).offset)) :: (r.after call).trace rest

variable {r : TextReader}

theorem afterAll_cons (r : TextReader) (call : Call) (rest : List Call) :
    r.afterAll (call :: rest) = (r.after call).afterAll rest := rfl

@[simp] theorem text_after (r : TextReader) (call : Call) : (r.after call).text = r.text := by
  cases call <;> rfl

@[simp] theorem text_afterAll (r : TextReader) (calls : List Call) :
    (r.afterAll calls).text = r.text := by
  induction calls generalizing r with
  | nil => rfl
  | cons call rest ih => rw [afterAll_cons, ih, text_after]

theorem length_ahead (r : TextReader) : r.ahead.length = r.text.length - r.offset :=
  List.length_drop

theorem ahead_eq_nil_iff : r.ahead = [] ↔ r.offset = r.text.length := by
  have hle := r.offset_le
  rw [← List.length_eq_zero_iff, length_ahead]
  omega

theorem slice_eq (r : TextReader) (n : Int) :
    r.slice n = if n.toNat ≤ r.ahead.length then some (r.ahead.take n.toNat) else none := by
  have hle := r.offset_le
  have hextract : r.text.extract r.offset (r.offset + n.toNat) = r.ahead.take n.toNat := by
    rw [List.extract_eq_take_drop, Nat.add_sub_cancel_left, ahead]
  have hfits : r.offset + n ≤ r.text.length ↔ n.toNat ≤ r.ahead.length := by
    rw [length_ahead]
    omega
  rw [slice, hextract]
  by_cases hn : n ≤ 0
  · have hzero : n.toNat = 0 := by omega
    rw [if_pos hn, if_pos (by omega), hzero, List.take_zero]
  · rw [if_neg hn]
    by_cases hfit : n.toNat ≤ r.ahead.length
    · rw [if_pos hfit, if_pos (hfits.2 hfit)]
    · rw [if_neg hfit, if_neg (mt hfits.1 hfit)]

theorem slice_eq_none_iff {call : Call} : (r.slice call.count).isNone = true ↔ r.Overruns call := by
  have hle := r.offset_le
  rw [slice_eq, Overruns, length_ahead]
  split_ifs with hfit
  · simp only [Option.isNone_some, Bool.false_eq_true, false_iff]
    omega
  · simp only [Option.isNone_none, true_iff]
    omega

theorem overran_cons {call : Call} {rest : List Call} :
    r.Overran (call :: rest) ↔ r.Overruns call ∨ (r.after call).Overran rest := by
  constructor
  · rintro ⟨before, call', later, heq, hover⟩
    cases before with
    | nil =>
      obtain ⟨rfl, -⟩ := List.cons.inj heq
      exact Or.inl hover
    | cons call'' before =>
      obtain ⟨rfl, rfl⟩ := List.cons.inj heq
      exact Or.inr ⟨before, call', later, rfl, hover⟩
  · rintro (hover | ⟨before, call', later, rfl, hover⟩)
    · exact ⟨[], call, rest, rfl, hover⟩
    · exact ⟨call :: before, call', later, rfl, hover⟩

theorem not_overran_nil : ¬r.Overran [] := by
  rintro ⟨before, call, later, heq, -⟩
  cases before <;> cases heq

end TextReader

namespace Stream

/-- A call on a stream that stands where the reader does is answered by the slice of the reader, and
leaves the stream where the reader goes. -/
theorem reading_at {s : Stream} {r : TextReader} (h : s.At r.text r.ahead) :
    ∀ call : Call, ∃ s', call.reading s = .ok (r.slice call.count) s' ∧
      s'.At r.text (r.after call).ahead
  | .read n => by
    obtain ⟨s', hs', hat⟩ := takeExactly_at n.toNat h
    have hahead : (r.after (.read n)).ahead = r.ahead.drop n.toNat := by
      show r.text.drop (min (r.offset + n.toNat) r.text.length) = _
      rw [TextReader.ahead, List.drop_drop, List.drop_eq_drop_iff, Nat.min_assoc, Nat.min_self]
    rw [hahead, TextReader.slice_eq]
    exact ⟨s', hs', hat⟩
  | .lookAhead n => by
    obtain ⟨s', hs', hat, -⟩ := peekExactly_at h n.toNat
    rw [TextReader.slice_eq]
    exact ⟨s', hs', hat⟩

end Stream

namespace Session

/-- The session stands where the reader does, and knows the end if it was overrun. -/
structure Follows (s : Session) (r : TextReader) (overran : Prop) : Prop where
  stands : s.stream.At r.text r.ahead
  ended : s.stream.exhausted = true ↔ overran

variable {s : Session} {r : TextReader} {overran : Prop}

theorem follows_start (text : List Char) :
    (ofStream (Stream.ofText text)).Follows (.start text) False where
  stands := Stream.at_ofText text
  ended := by simp [ofStream, Stream.ofText, Stream.ofEvents]

theorem Follows.position (h : s.Follows r overran) :
    s.stream.position = Position.start.advance (r.text.take r.offset) := by
  have hle := r.offset_le
  have hoffset : r.text.length - (r.text.length - r.offset) = r.offset := by omega
  rw [h.stands.position, Position.ofSuffix, TextReader.length_ahead, hoffset]

/-- The stream is known to be empty when all has been consumed and the end was overrun. -/
theorem Follows.isEmpty_iff (h : s.Follows r overran) :
    s.stream.isEmpty = true ↔ r.offset = r.text.length ∧ overran := by
  obtain ⟨later, hpending, hahead⟩ := h.stands.chars
  rw [← TextReader.ahead_eq_nil_iff, ← h.ended, Stream.isEmpty, Bool.and_eq_true,
    List.isEmpty_iff, hahead, List.append_eq_nil_iff]
  constructor
  · rintro ⟨hended, hbuffer⟩
    rw [h.stands.ended hended] at hpending
    exact ⟨⟨hbuffer, List.map_eq_nil_iff.1 hpending.symm⟩, hended⟩
  · rintro ⟨⟨hbuffer, -⟩, hended⟩
    exact ⟨hended, hbuffer⟩

/-- **One call.** The session answers as the reader does, and goes on following it. -/
theorem Follows.perform (h : s.Follows r overran) (call : Call) :
    (s.perform call.request).1 = .ok (.chars (r.slice call.count)) ∧
      (s.perform call.request).2.Follows (r.after call) (overran ∨ r.Overruns call) := by
  obtain ⟨rest, hrest, hat⟩ := Stream.reading_at h.stands call
  have hended := call.exhausted_reading hrest
  rw [perform_call, hrest]
  refine ⟨rfl, ?_, ?_⟩
  · rw [TextReader.text_after]
    exact hat
  · show rest.exhausted = true ↔ _
    rw [hended, Bool.or_eq_true, h.ended, TextReader.slice_eq_none_iff]

/-- **A sequence of calls.** -/
theorem Follows.after (h : s.Follows r overran) (calls : List Call) :
    (s.after (calls.map Call.request)).Follows (r.afterAll calls) (overran ∨ r.Overran calls) := by
  induction calls generalizing s r overran with
  | nil => simpa [TextReader.not_overran_nil, TextReader.afterAll] using h
  | cons call rest ih =>
    have hrest := ih (h.perform call).2
    rw [or_assoc, ← TextReader.overran_cons] at hrest
    exact hrest

theorem Follows.trace_eq (h : s.Follows r overran) (calls : List Call) :
    (s.performAll (calls.map Call.request)).map (fun step => (step.1, step.2.stream.position)) =
      r.trace calls := by
  induction calls generalizing s r overran with
  | nil => rfl
  | cons call rest ih =>
    obtain ⟨hanswer, hnext⟩ := h.perform call
    have hposition := hnext.position
    rw [TextReader.text_after] at hposition
    simp only [List.map_cons, performAll, TextReader.trace, hanswer, hposition, ih hnext]

/-- **A stream over a text is a text and an offset.** Whatever calls were made before, let `r` be the
reader behind them. Both calls are answered by the slice of the text that begins at its offset, and
the position is the place of that offset. The stream knows that it is empty exactly when all of the
text is consumed and some call asked for more than there was at that time. A read of less than one
character changes nothing, and a look ahead makes no difference to the answers and the positions of
whatever calls follow it. -/
theorem reads_as_textReader (text : List Char) (calls : List Call) :
    let s := (ofStream (Stream.ofText text)).after (calls.map Call.request)
    let r := (TextReader.start text).afterAll calls
    (∀ call : Call, (s.perform call.request).1 = .ok (.chars (r.slice call.count))) ∧
      s.stream.position = Position.start.advance (text.take r.offset) ∧
      (s.stream.isEmpty = true ↔
        r.offset = text.length ∧ (TextReader.start text).Overran calls) ∧
      (∀ n ≤ 0, (s.perform (.read n)).2 = s) ∧
      ∀ n (later : List Call),
        ((s.perform (.lookAhead n)).2.performAll (later.map Call.request)).map
            (fun step => (step.1, step.2.stream.position)) =
          (s.performAll (later.map Call.request)).map
            (fun step => (step.1, step.2.stream.position)) := by
  intro s r
  have hfollows : s.Follows r (False ∨ (TextReader.start text).Overran calls) :=
    (follows_start text).after calls
  have htext : r.text = text := TextReader.text_afterAll _ _
  have hposition := hfollows.position
  have hempty := hfollows.isEmpty_iff
  rw [htext] at hposition hempty
  rw [false_or] at hempty
  refine ⟨fun call => (hfollows.perform call).1, hposition, hempty, fun n hn => ?_,
    fun n later => ?_⟩
  · have hzero : n.toNat = 0 := by omega
    have hread : (Call.read n).reading s.stream = .ok (some []) s.stream := by
      rw [Call.reading, Stream.read, hzero, Stream.takeExactly_zero]
    exact congrArg Prod.snd ((perform_call s (.read n)).trans (by rw [hread]))
  · have hnext := (hfollows.perform (.lookAhead n)).2
    exact (hnext.trace_eq later).trans (hfollows.trace_eq later).symm

/-- Two looks ahead, the second of which meets the end, around a read of half a line end. -/
theorem reads_as_textReader_of_overrun :
    let calls : List Call := [.lookAhead 3, .read 2, .lookAhead 9]
    let s := (ofStream (Stream.ofText "a\r\nb".toList)).after (calls.map Call.request)
    (s.perform (.read 2)).1 = .ok (.chars (some ['\n', 'b'])) ∧
      s.stream.position = Position.start.advance ['a', '\r'] ∧
      (-1 : Int) ≤ 0 ∧ (s.perform (.read (-1))).2 = s := by
  intro calls s
  obtain ⟨hanswer, hposition, -, hnothing, -⟩ := reads_as_textReader "a\r\nb".toList calls
  exact ⟨hanswer (.read 2), hposition, by decide, hnothing (-1) (by decide)⟩

end Session

end Lexis
