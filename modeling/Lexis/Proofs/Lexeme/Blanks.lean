import Lexis.Proofs.Source.Repeat
import Lexis.Lexeme.Form

/-! # The skip over blanks

On a stream over any source, the skip over blanks looks at one character, stops where it is no
blank, and else consumes it and begins anew (`Scan.skipBlanks_eq`); the bound on its loop is never
met, since every round makes the stream smaller. A skip that a failure has stopped has consumed some
blanks, which a second skip need not meet again, so the skip can be repeated, and with it the
question whether anything follows (`Scan.repeatable_hasNext`). -/

namespace Lexis

open CharClass

namespace Stream

variable {s s' : Stream}

/-- The stream behind the first character of the buffer, which is `c`. -/
def consume (s : Stream) (c : Char) : Stream := ({ s with buffer := s.buffer.tail } : Stream).pass c

theorem size_pull {o : Option Char} (h : pull s = .ok o s') :
    s'.size + o.toList.length ≤ s.size := by
  unfold pull at h
  split_ifs at h
  · cases h
    simp
  · split at h <;> cases h <;>
      simp only [size, Option.toList_none, Option.toList_some, List.length_cons, List.length_nil,
        *] <;>
      omega

theorem size_fill : ∀ (n : Nat) {s s' : Stream} {filled : Bool},
    fill n s = .ok filled s' → s'.size ≤ s.size
  | 0, s, s', filled, h => by
    rw [fill_zero] at h
    cases h
    exact Nat.le_refl _
  | n + 1, s, s', filled, h => by
    rw [fill_succ] at h
    split at h
    · rename_i s₁ hpull
      cases h
      simpa using size_pull hpull
    · rename_i c s₁ hpull
      have h₁ := size_pull hpull
      have h₂ := size_fill n h
      simp [size] at h₁ h₂ ⊢
      omega
    · cases h

theorem peek_eq (s : Stream) :
    peek s =
      match peekExactly 1 s with
      | .ok o s₁ => .ok (o.bind List.head?) s₁
      | .error e s₁ => .error e s₁ := by
  simp only [peek, bind, EStateM.bind]
  cases peekExactly 1 s <;> rfl

/-- A character that has been looked at lies in front of the buffer, and the stream is no larger. -/
theorem buffer_of_peek {c : Char} (h : peek s = .ok (some c) s') :
    s'.buffer = c :: s'.buffer.tail ∧ s'.size ≤ s.size := by
  rw [peek_eq, peekExactly_eq] at h
  cases hf : fill (1 - s.buffer.length) s with
  | error e s₁ => simp [hf] at h
  | ok filled s₁ =>
    simp only [hf, EStateM.Result.ok.injEq] at h
    obtain ⟨hhead, rfl⟩ := h
    refine ⟨?_, size_fill _ hf⟩
    cases filled with
    | false => cases hhead
    | true =>
      rw [if_pos rfl, Option.bind_some, List.head?_take, if_neg Nat.one_ne_zero] at hhead
      exact (List.cons_head?_tail hhead).symm

theorem size_consume {c : Char} {rest : List Char} (hb : s.buffer = c :: rest) :
    (s.consume c).size + 1 = s.size := by
  simp [consume, pass, size, hb]
  omega

theorem repeatable_peek : Repeatable peek :=
  (repeatable_peekExactly 1).of_eq (fun o _ => o.bind List.head?) id (fun _ _ => rfl)
    (fun hpeek => by rw [peek_eq, hpeek]) (fun hpeek => by rw [peek_eq, hpeek]; rfl)

end Stream

namespace Scan

section Reading
variable {α : Type} {r : Reading α} {s s' : Stream}

theorem ofReading_ok {a : α} (h : r s = .ok a s') : ofReading r s = .ok a s' := by
  simp only [ofReading, EStateM.adaptExcept, h]

theorem ofReading_error {e : ReadFailure} (h : r s = .error e s') :
    ofReading r s = .error (.reading e) s' := by
  simp only [ofReading, EStateM.adaptExcept, h]

/-- A reading step of a scan can be repeated if the reading can. -/
theorem repeatable_ofReading (h : Repeatable r) : Repeatable (ofReading r) :=
  h.of_eq (fun a _ => a) .reading (fun _ _ => rfl) ofReading_ok ofReading_error

end Reading

/-! ### Round by round -/

theorem peek_eq (s : Stream) :
    peek s =
      match Stream.peek s with
      | .ok o s₁ => .ok o s₁
      | .error e s₁ => .error (.reading e) s₁ := by
  simp only [peek, ofReading, EStateM.adaptExcept]
  cases Stream.peek s <;> rfl

theorem skip_one {s : Stream} {c : Char} (hb : s.buffer = c :: s.buffer.tail) :
    skip 1 s = .ok () (s.consume c) := by
  have hnext : Stream.next s = .ok (some c) (s.consume c) := Stream.next_of_cons hb
  simp only [skip, Functor.discard, Functor.mapConst, EStateM.map, ofReading, EStateM.adaptExcept,
    Stream.takeExactly_one, hnext, Function.const, Function.comp]

/-- One round of a run. -/
theorem runWithin_succ (p : Char → Bool) (bound : Nat) (s : Stream) :
    runWithin p (bound + 1) s =
      match Stream.peek s with
      | .ok none s₁ => .ok [] s₁
      | .ok (some c) s₁ =>
        if p c then
          match runWithin p bound (s₁.consume c) with
          | .ok cs s₂ => .ok (c :: cs) s₂
          | .error e s₂ => .error e s₂
        else .ok [] s₁
      | .error e s₁ => .error (.reading e) s₁ := by
  simp only [runWithin, bind, EStateM.bind, peek_eq]
  cases hp : Stream.peek s with
  | error e s₁ => rfl
  | ok o s₁ =>
    cases o with
    | none => rfl
    | some c =>
      by_cases hc : p c = true
      · simp only [hc, if_true, EStateM.bind, skip_one (Stream.buffer_of_peek hp).1]
        cases runWithin p bound (s₁.consume c) <;> rfl
      · simp only [hc, Bool.false_eq_true, if_false]
        rfl

/-- A bound above the size of the stream is not met, so any two of them make no difference. -/
theorem runWithin_eq (p : Char → Bool) : ∀ (bound bound' : Nat) (s : Stream),
    s.size < bound → s.size < bound' → runWithin p bound s = runWithin p bound' s
  | 0, _, s, h, _ => by omega
  | _ + 1, 0, s, _, h => by omega
  | bound + 1, bound' + 1, s, h, h' => by
    rw [runWithin_succ, runWithin_succ]
    cases hp : Stream.peek s with
    | error e s₁ => rfl
    | ok o s₁ =>
      cases o with
      | none => rfl
      | some c =>
        obtain ⟨hb, hle⟩ := Stream.buffer_of_peek hp
        have hsize := Stream.size_consume hb
        simp only [runWithin_eq p bound bound' (s₁.consume c) (by omega) (by omega)]

/-- **The skip over blanks, round by round.** -/
theorem skipBlanks_eq (s : Stream) :
    skipBlanks s =
      match Stream.peek s with
      | .ok none s₁ => .ok () s₁
      | .ok (some c) s₁ => if isBlank c then skipBlanks (s₁.consume c) else .ok () s₁
      | .error e s₁ => .error (.reading e) s₁ := by
  have hskip : ∀ t : Stream, skipBlanks t =
      match runWithin isBlank (t.size + 1) t with
      | .ok _ t₁ => .ok () t₁
      | .error e t₁ => .error e t₁ := by
    intro t
    simp only [skipBlanks, Functor.discard, Functor.mapConst, EStateM.map, run, bounded,
      Function.comp]
    cases runWithin isBlank (t.size + 1) t <;> rfl
  rw [hskip s, runWithin_succ]
  cases hp : Stream.peek s with
  | error e s₁ => rfl
  | ok o s₁ =>
    cases o with
    | none => rfl
    | some c =>
      obtain ⟨hb, hle⟩ := Stream.buffer_of_peek hp
      have hsize := Stream.size_consume hb
      have hbound := runWithin_eq isBlank ((s₁.consume c).size + 1) s.size (s₁.consume c)
        (by omega) (by omega)
      by_cases hc : isBlank c = true
      · simp only [hc, if_true, hskip (s₁.consume c), hbound]
        cases runWithin isBlank s.size (s₁.consume c) <;> rfl
      · simp only [hc, Bool.false_eq_true, if_false]

/-! ### The skip can be repeated -/

/-- By induction on the size of the stream: a blank that has been consumed is none that the skip
over the rest has to meet. -/
theorem repeatableFrom_skipBlanks : ∀ (size : Nat) (s : Stream), s.size < size →
    RepeatableFrom skipBlanks s
  | 0, s, h => by omega
  | size + 1, s, h => by
    have hround := skipBlanks_eq s
    cases hp : Stream.peek s with
    | error e s₁ =>
      obtain ⟨hpeek, hfailures⟩ := (Stream.repeatable_peek s).error hp
      rw [hp] at hround
      refine .of_error hround ?_ hfailures
      rw [skipBlanks_eq s₁.withoutFailures, skipBlanks_eq s.withoutFailures, hpeek]
    | ok o s₁ =>
      obtain ⟨hpeek, hfailures⟩ := (Stream.repeatable_peek s).ok hp
      have hround' := skipBlanks_eq s.withoutFailures
      rw [hp] at hround
      rw [hpeek] at hround'
      cases o with
      | none => exact .of_ok hround hround' hfailures
      | some c =>
        by_cases hc : isBlank c = true
        · obtain ⟨hb, hle⟩ := Stream.buffer_of_peek hp
          have hsize := Stream.size_consume hb
          have hrest := repeatableFrom_skipBlanks size (s₁.consume c) (by omega)
          have hsame : (s₁.consume c).failures = s.failures := hfailures
          have hskip : skipBlanks s = skipBlanks (s₁.consume c) := by
            simpa only [hc, if_true] using hround
          have hskip' : skipBlanks s.withoutFailures =
              skipBlanks (s₁.consume c).withoutFailures := by
            simp only [hc, if_true] at hround'
            exact hround'
          constructor
          · intro a s' ha
            rw [hskip', ← hsame]
            exact hrest.ok (hskip.symm.trans ha)
          · intro e s' he
            rw [hskip', ← hsame]
            exact hrest.error (hskip.symm.trans he)
        · simp only [hc, Bool.false_eq_true, if_false] at hround hround'
          exact .of_ok hround hround' hfailures

/-- **The skip over blanks can be repeated.** -/
theorem repeatable_skipBlanks : Repeatable skipBlanks := fun s =>
  repeatableFrom_skipBlanks _ s (Nat.lt_succ_self _)

/-- **The question whether anything follows can be repeated.** -/
theorem repeatable_hasNext : Repeatable hasNext :=
  repeatable_skipBlanks.of_eq (fun _ s => !s.isEmpty) id (fun _ _ => rfl)
    (fun hskip => by simp only [hasNext, bind, EStateM.bind, hskip]; rfl)
    (fun hskip => by simp only [hasNext, bind, EStateM.bind, hskip]; rfl)

end Scan

end Lexis
