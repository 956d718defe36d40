import Lexis.Proofs.Source.Operations

/-! # Operations that can be repeated

An operation that a failure of the source has stopped half way can be tried again on the stream that
it left. It can be repeated if this leads where the operation would have led at once, had the source
not failed (`RepeatableFrom`): the comparison is with the stream over the same source without its
failures (`Stream.withoutFailures`). Consuming one character can be repeated, since a failure stops it
before it has consumed anything, and so can looking ahead, since what it has moved into the buffer is
not wanted again. A read of more than one character cannot: tried again, it wants all of them anew. -/

namespace Lexis

/-- The read fails. -/
def Event.isFailure : Event → Bool
  | .failure _ => true
  | .char _ | .noData => false

namespace Stream

variable {s s' : Stream}

/-- The stream over the same source, of which every read succeeds. -/
def withoutFailures (s : Stream) : Stream :=
  { s with pending := s.pending.filter fun e => !e.isFailure }

/-- The number of failures that the source still holds. -/
def failures (s : Stream) : Nat := s.pending.countP Event.isFailure

theorem buffer_withoutFailures (s : Stream) : s.withoutFailures.buffer = s.buffer := rfl

end Stream

/-! ### Operations on a stream -/

section Repeatable
variable {ε ε' α β : Type} {m : EStateM ε Stream α} {m' : EStateM ε' Stream β} {s s' : Stream}

/-- From the stream `s` the operation succeeds only as it does without failures, and where it fails
it has used up a failure and can be run again in its place. -/
structure RepeatableFrom (m : EStateM ε Stream α) (s : Stream) : Prop where
  ok : ∀ {a s'}, m s = .ok a s' →
    m s.withoutFailures = .ok a s'.withoutFailures ∧ s'.failures = s.failures
  error : ∀ {e s'}, m s = .error e s' →
    m s'.withoutFailures = m s.withoutFailures ∧ s'.failures < s.failures

/-- The operation can be repeated from every stream. -/
def Repeatable (m : EStateM ε Stream α) : Prop := ∀ s, RepeatableFrom m s

theorem RepeatableFrom.of_ok {a : α} (hm : m s = .ok a s')
    (hagain : m s.withoutFailures = .ok a s'.withoutFailures)
    (hfailures : s'.failures = s.failures) : RepeatableFrom m s where
  ok h := by
    rw [hm] at h
    cases h
    exact ⟨hagain, hfailures⟩
  error h := by
    rw [hm] at h
    cases h

theorem RepeatableFrom.of_error {e : ε} (hm : m s = .error e s')
    (hagain : m s'.withoutFailures = m s.withoutFailures)
    (hfailures : s'.failures < s.failures) : RepeatableFrom m s where
  ok h := by
    rw [hm] at h
    cases h
  error h := by
    rw [hm] at h
    cases h
    exact ⟨hagain, hfailures⟩

/-- What an operation answers and how its failures are named makes no difference, as long as the
answer does not look at the failures of the source. -/
theorem Repeatable.of_eq (h : Repeatable m) (f : α → Stream → β) (g : ε → ε')
    (hf : ∀ a s, f a s.withoutFailures = f a s)
    (hok : ∀ {s s' a}, m s = .ok a s' → m' s = .ok (f a s') s')
    (herror : ∀ {s s' e}, m s = .error e s' → m' s = .error (g e) s') : Repeatable m' := by
  intro s
  cases hm : m s with
  | ok a s' =>
    obtain ⟨hagain, hfailures⟩ := (h s).ok hm
    exact .of_ok (hok hm) ((hok hagain).trans (by rw [hf])) hfailures
  | error e s' =>
    obtain ⟨hagain, hfailures⟩ := (h s).error hm
    refine .of_error (herror hm) ?_ hfailures
    cases hw : m s.withoutFailures with
    | ok a s₁ => rw [hok hw, hok (hagain.trans hw)]
    | error e₁ s₁ => rw [herror hw, herror (hagain.trans hw)]

end Repeatable

namespace Stream

/-! ### Reading and looking ahead -/

/-- A pull that fails has done nothing but use up the failure. -/
theorem pull_withoutFailures (s : Stream) :
    match pull s with
    | .ok o s' => pull s.withoutFailures = .ok o s'.withoutFailures ∧ s'.failures = s.failures
    | .error _ s' => s'.withoutFailures = s.withoutFailures ∧ s'.failures < s.failures := by
  cases s with
  | mk pending buffer exhausted position =>
    cases exhausted with
    | true => exact ⟨rfl, rfl⟩
    | false =>
      rcases pending with _ | ⟨_ | _ | _, rest⟩ <;>
        simp [pull, withoutFailures, failures, List.countP_cons, Event.isFailure]

theorem next_withoutFailures (s : Stream) :
    match next s with
    | .ok o s' => next s.withoutFailures = .ok o s'.withoutFailures ∧ s'.failures = s.failures
    | .error _ s' => s'.withoutFailures = s.withoutFailures ∧ s'.failures < s.failures := by
  cases hb : s.buffer with
  | cons c rest =>
    have hb' : s.withoutFailures.buffer = c :: rest := hb
    rw [next_of_cons hb, next_of_cons hb']
    exact ⟨rfl, rfl⟩
  | nil =>
    have hb' : s.withoutFailures.buffer = [] := hb
    have hpull := pull_withoutFailures s
    rw [next_of_nil hb, next_of_nil hb']
    cases hp : pull s with
    | error e s' =>
      simp only [hp] at hpull
      exact hpull
    | ok o s' =>
      simp only [hp] at hpull
      rw [hpull.1]
      cases o with
      | none => exact ⟨rfl, hpull.2⟩
      | some c => exact ⟨rfl, hpull.2⟩

theorem repeatable_next : Repeatable next := by
  intro s
  have hnext := next_withoutFailures s
  cases hn : next s with
  | ok o s' =>
    simp only [hn] at hnext
    exact .of_ok hn hnext.1 hnext.2
  | error e s' =>
    simp only [hn] at hnext
    exact .of_error hn (congrArg next hnext.1) hnext.2

/-- **Reading one character can be repeated.** -/
theorem repeatable_takeExactly_one : Repeatable (takeExactly 1) :=
  repeatable_next.of_eq (fun o _ => o.map ([·])) id (fun _ _ => rfl)
    (fun hnext => by rw [takeExactly_one, hnext]) (fun hnext => by rw [takeExactly_one, hnext]; rfl)

/-- A fill that fails has put some characters into the buffer, and has that many less to go. -/
theorem fill_withoutFailures : ∀ (n : Nat) (s : Stream),
    match fill n s with
    | .ok filled s' =>
      fill n s.withoutFailures = .ok filled s'.withoutFailures ∧ s'.failures = s.failures
    | .error _ s' => s'.failures < s.failures ∧
      ∃ k, s'.buffer.length = s.buffer.length + k ∧
        fill (n - k) s'.withoutFailures = fill n s.withoutFailures
  | 0, s => ⟨rfl, rfl⟩
  | n + 1, s => by
    have hpull := pull_withoutFailures s
    have hkeeps := pull_keeps s
    rw [fill_succ n s]
    cases hp : pull s with
    | error e s' =>
      simp only [hp] at hpull
      simp only [hp] at hkeeps
      exact ⟨hpull.2, 0, congrArg List.length hkeeps.1, congrArg (fill (n + 1)) hpull.1⟩
    | ok o s' =>
      simp only [hp] at hpull hkeeps
      have hfill := fill_succ n s.withoutFailures
      rw [hpull.1] at hfill
      cases o with
      | none => exact ⟨hfill, hpull.2⟩
      | some c =>
        have hrest := fill_withoutFailures n { s' with buffer := s'.buffer ++ [c] }
        simp only at hfill ⊢
        cases hf : fill n { s' with buffer := s'.buffer ++ [c] } with
        | ok filled s'' =>
          simp only [hf] at hrest
          exact ⟨hfill.trans hrest.1, hrest.2.trans hpull.2⟩
        | error e s'' =>
          simp only [hf] at hrest
          obtain ⟨hless, k, hk, hagain⟩ := hrest
          rw [List.length_append, hkeeps.1, List.length_singleton] at hk
          refine ⟨lt_of_lt_of_eq hless hpull.2, k + 1, by omega, ?_⟩
          rw [Nat.add_sub_add_right]
          exact hagain.trans hfill.symm

/-- **Looking ahead can be repeated.** -/
theorem repeatable_peekExactly (n : Nat) : Repeatable (peekExactly n) := by
  intro s
  have hfill := fill_withoutFailures (n - s.buffer.length) s
  have hpeek := peekExactly_eq n s
  cases hf : fill (n - s.buffer.length) s with
  | ok filled s' =>
    simp only [hf] at hfill hpeek
    refine .of_ok hpeek ?_ hfill.2
    rw [peekExactly_eq, buffer_withoutFailures, hfill.1]
    rfl
  | error e s' =>
    simp only [hf] at hfill hpeek
    obtain ⟨hless, k, hk, hagain⟩ := hfill
    refine .of_error hpeek ?_ hless
    rw [peekExactly_eq, peekExactly_eq, buffer_withoutFailures, buffer_withoutFailures, hk,
      ← Nat.sub_sub, hagain]

end Stream

end Lexis
