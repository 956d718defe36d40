import Lexis.Source.Stream
import Mathlib.Data.List.Basic
import Mathlib.Tactic.Common

/-! # Streams over a text

A stream over a text is described by the characters ahead of it, a suffix of the text. How many of
them have been moved into the buffer, and whether the end has been met, does not show in what the
operations answer: every operation answers what the text ahead says and leaves the stream in front
of a suffix of it (`Stream.At`). The position is the one reached by passing all that lies before
the suffix, so the suffix alone gives it (`Position.ofSuffix`).

Reads of a text never fail, hence each operation is described by one equation. -/

namespace Lexis

namespace Position

/-- The place in `text` where its suffix `ahead` begins. -/
def ofSuffix (text ahead : List Char) : Position :=
  start.advance (text.take (text.length - ahead.length))

theorem ofSuffix_append (before ahead : List Char) :
    ofSuffix (before ++ ahead) ahead = start.advance before := by
  simp [ofSuffix]

@[simp] theorem ofSuffix_self (text : List Char) : ofSuffix text text = start := by
  simp [ofSuffix]

theorem ofSuffix_tail {text rest : List Char} {c : Char} (h : c :: rest <:+ text) :
    ofSuffix text rest = (ofSuffix text (c :: rest)).step c := by
  obtain ⟨before, rfl⟩ := h
  have hsplit : before ++ c :: rest = (before ++ [c]) ++ rest := by simp
  rw [ofSuffix_append, hsplit, ofSuffix_append, advance_append, advance_cons, advance_nil]

theorem offset_ofSuffix {text ahead : List Char} (h : ahead <:+ text) :
    (ofSuffix text ahead).offset = text.length - ahead.length := by
  obtain ⟨before, rfl⟩ := h
  rw [ofSuffix_append, offset_advance, List.length_append]
  simp [start]

end Position

namespace Stream

/-- The stream stands in `text`, with the suffix `ahead` of it still to be consumed. -/
structure At (s : Stream) (text ahead : List Char) : Prop where
  suffix : ahead <:+ text
  chars : ∃ later, s.pending = later.map .char ∧ ahead = s.buffer ++ later
  ended : s.exhausted = true → s.pending = []
  position : s.position = Position.ofSuffix text ahead

/-- The characters that the stream can still deliver. -/
def unread (s : Stream) : List Char :=
  s.buffer ++ s.pending.filterMap fun
    | .char c => some c
    | _ => none

theorem at_ofText (text : List Char) : (ofText text).At text text where
  suffix := List.suffix_refl text
  chars := ⟨text, rfl, rfl⟩
  ended := fun h => by cases h
  position := (Position.ofSuffix_self text).symm

section At
variable {s : Stream} {text ahead : List Char} (h : s.At text ahead)
include h

theorem At.size_eq : s.size = ahead.length := by
  obtain ⟨later, hp, rfl⟩ := h.chars
  simp [size, hp]

theorem At.unread_eq : s.unread = ahead := by
  obtain ⟨later, hp, rfl⟩ := h.chars
  rw [unread, hp, List.filterMap_map]
  exact congrArg (s.buffer ++ ·) List.filterMap_some

theorem At.not_exhausted {c : Char} {rest : List Event} (hp : s.pending = .char c :: rest) :
    s.exhausted = false := by
  cases he : s.exhausted with
  | false => rfl
  | true => rw [h.ended he] at hp; cases hp

/-- Moving a character into the buffer changes nothing that is ahead. -/
theorem At.buffered {c : Char} {later : List Char} (hp : s.pending = (c :: later).map .char) :
    ({ s with pending := later.map .char, buffer := s.buffer ++ [c] } : Stream).At text ahead where
  suffix := h.suffix
  chars := by
    obtain ⟨later', hp', rfl⟩ := h.chars
    have hl : later' = c :: later := by
      refine List.map_injective_iff.2 (fun a b hab => ?_) (hp'.symm.trans hp)
      exact Event.char.inj hab
    exact ⟨later, rfl, by simp [hl]⟩
  ended := fun he => by rw [h.not_exhausted hp] at he; cases he
  position := h.position

theorem At.exhaust (hp : s.pending = []) :
    ({ s with exhausted := true } : Stream).At text ahead where
  suffix := h.suffix
  chars := h.chars
  ended := fun _ => hp
  position := h.position

end At

/-! ### One read of the source -/

theorem pull_nil {s : Stream} (hp : s.pending = []) :
    pull s = .ok none { s with exhausted := true } := by
  cases s with
  | mk pending buffer exhausted position =>
    cases exhausted <;> simp_all [pull]

theorem pull_char {s : Stream} {c : Char} {rest : List Event} (he : s.exhausted = false)
    (hp : s.pending = .char c :: rest) : pull s = .ok (some c) { s with pending := rest } := by
  simp [pull, he, hp]

/-! ### Looking ahead -/

/-- Getting the stream leaves it as it is. -/
theorem get_apply {ε : Type} (s : Stream) :
    (EStateM.get : EStateM ε Stream Stream) s = .ok s s := rfl

/-- Filling the buffer with `n` more characters succeeds when there are as many, and otherwise meets
the end. -/
theorem fill_at {text ahead : List Char} : ∀ (n : Nat) {s : Stream}, s.At text ahead →
    ∃ s', fill n s = .ok (decide (s.buffer.length + n ≤ ahead.length)) s' ∧ s'.At text ahead ∧
      s'.buffer = ahead.take (s.buffer.length + n) ∧
      (ahead.length < s.buffer.length + n → s'.exhausted = true)
  | 0, s, h => by
    obtain ⟨later, -, hl⟩ := h.chars
    have hle : s.buffer.length ≤ ahead.length := by rw [hl, List.length_append]; omega
    refine ⟨s, ?_, h, ?_, fun hlt => by omega⟩
    · simp [fill, hle]; rfl
    · simp [hl]
  | n + 1, s, h => by
    obtain ⟨later, hp, hl⟩ := h.chars
    cases later with
    | nil =>
      have hb : s.buffer = ahead := by simp [hl]
      refine ⟨{ s with exhausted := true }, ?_, h.exhaust hp, ?_, fun _ => rfl⟩
      · have hlt : ¬s.buffer.length + (n + 1) ≤ ahead.length := by rw [hb]; omega
        rw [decide_eq_false hlt, fill]
        simp only [bind, EStateM.bind, pull_nil hp]
        rfl
      · rw [hb, List.take_of_length_le (by omega)]
    | cons c later =>
      have hp' : s.pending = .char c :: later.map .char := hp
      obtain ⟨s', hs', hat, hb, he⟩ := fill_at n (h.buffered hp)
      simp only [List.length_append, List.length_singleton] at hs' hb he
      rw [Nat.add_assoc, Nat.add_comm 1 n] at hs' hb he
      refine ⟨s', ?_, hat, hb, he⟩
      rw [← hs', fill]
      simp only [bind, EStateM.bind, pull_char (h.not_exhausted hp') hp']
      rfl

/-- Looking at `n` characters answers them when there are as many. Afterwards they lie in the buffer,
or the end has been met. -/
theorem peekExactly_at {s : Stream} {text ahead : List Char} (h : s.At text ahead) (n : Nat) :
    ∃ s', peekExactly n s = .ok (if n ≤ ahead.length then some (ahead.take n) else none) s' ∧
      s'.At text ahead ∧ (n ≤ s'.buffer.length ∨ s'.exhausted = true) := by
  obtain ⟨s', hs', hat, hb, he⟩ := fill_at (n - s.buffer.length) h
  have hle : s.buffer.length ≤ ahead.length := by
    obtain ⟨later, -, hl⟩ := h.chars
    rw [hl, List.length_append]; omega
  have hiff : s.buffer.length + (n - s.buffer.length) ≤ ahead.length ↔ n ≤ ahead.length := by omega
  have hmax : n ≤ s.buffer.length + (n - s.buffer.length) := by omega
  refine ⟨s', ?_, hat, ?_⟩
  · have htake : s'.buffer.take n = ahead.take n := by
      rw [hb, List.take_take, Nat.min_eq_left hmax]
    simp only [hiff] at hs'
    by_cases hn : n ≤ ahead.length <;>
      simp [peekExactly, bind, EStateM.bind, get, getThe, MonadStateOf.get, get_apply, hs', hn,
        htake, pure, EStateM.pure]
  · by_cases hn : n ≤ ahead.length
    · left
      rw [hb, List.length_take]
      omega
    · right
      exact he (by omega)

/-- A stream that has been looked into knows whether it is empty. -/
theorem At.isEmpty_eq {s : Stream} {text ahead : List Char} (h : s.At text ahead)
    (hmet : 1 ≤ s.buffer.length ∨ s.exhausted = true) : s.isEmpty = ahead.isEmpty := by
  obtain ⟨later, hp, rfl⟩ := h.chars
  rcases hmet with hmet | hmet
  · obtain ⟨c, rest, hb⟩ := List.exists_cons_of_length_pos hmet
    simp [isEmpty, hb]
  · have hnil : later = [] := List.map_eq_nil_iff.1 (hp.symm.trans (h.ended hmet))
    simp [isEmpty, hmet, hnil]

theorem peek_at {s : Stream} {text ahead : List Char} (h : s.At text ahead) :
    ∃ s', peek s = .ok ahead.head? s' ∧ s'.At text ahead ∧ s'.isEmpty = ahead.isEmpty := by
  obtain ⟨s', hs', hat, hmet⟩ := peekExactly_at h 1
  refine ⟨s', ?_, hat, hat.isEmpty_eq hmet⟩
  cases ahead with
  | nil => simp [peek, bind, EStateM.bind, hs', pure, EStateM.pure]
  | cons c rest => simp [peek, bind, EStateM.bind, hs', pure, EStateM.pure]

/-! ### Consuming -/

/-- Consuming a character that is ahead, wherever it lies, moves on by that character. -/
theorem At.passed {s s' : Stream} {text rest : List Char} {c : Char} (h : s.At text (c :: rest))
    (hchars : ∃ later, s'.pending = later.map .char ∧ rest = s'.buffer ++ later)
    (hended : s'.exhausted = true → s'.pending = []) (hpos : s'.position = s.position) :
    (s'.pass c).At text rest where
  suffix := (List.suffix_cons c rest).trans h.suffix
  chars := hchars
  ended := hended
  position := by
    rw [Position.ofSuffix_tail h.suffix, ← h.position, ← hpos]
    rfl

theorem next_at {s : Stream} {text ahead : List Char} (h : s.At text ahead) :
    ∃ s', next s = .ok ahead.head? s' ∧ s'.At text ahead.tail := by
  obtain ⟨later, hp, rfl⟩ := h.chars
  cases hb : s.buffer with
  | cons c rest =>
    rw [hb] at h
    refine ⟨({ s with buffer := rest } : Stream).pass c, ?_, ?_⟩
    · simp [next, hb]
    · exact h.passed ⟨later, hp, rfl⟩ h.ended rfl
  | nil =>
    rw [hb] at h
    cases later with
    | nil =>
      refine ⟨{ s with exhausted := true }, ?_, h.exhaust hp⟩
      simp [next, hb, pull_nil hp]
    | cons c later =>
      have hp' : s.pending = .char c :: later.map .char := hp
      have he := h.not_exhausted hp'
      refine ⟨({ s with pending := later.map .char } : Stream).pass c, ?_, ?_⟩
      · simp [next, hb, pull_char he hp']
      · exact h.passed ⟨later, rfl, by simp [hb]⟩ (fun h' => by rw [he] at h'; cases h') rfl

/-- Consuming `n` characters answers them when there are as many, and in any case consumes up to
`n` of them. -/
theorem takeExactly_at {text : List Char} : ∀ (n : Nat) {s : Stream} {ahead : List Char},
    s.At text ahead →
      ∃ s', takeExactly n s = .ok (if n ≤ ahead.length then some (ahead.take n) else none) s' ∧
        s'.At text (ahead.drop n)
  | 0, s, ahead, h => ⟨s, by simp [takeExactly, pure, EStateM.pure], h⟩
  | n + 1, s, ahead, h => by
    obtain ⟨s₁, hs₁, hat₁⟩ := next_at h
    cases ahead with
    | nil =>
      refine ⟨s₁, ?_, hat₁⟩
      simp [takeExactly, bind, EStateM.bind, hs₁, pure, EStateM.pure]
    | cons c rest =>
      obtain ⟨s₂, hs₂, hat₂⟩ := takeExactly_at n hat₁
      refine ⟨s₂, ?_, hat₂⟩
      simp only [List.tail_cons] at hs₂
      by_cases hn : n ≤ rest.length <;>
        simp [takeExactly, bind, EStateM.bind, hs₁, hs₂, hn, pure, EStateM.pure]

end Stream

end Lexis
