import Lexis.Proofs.Source.Text
import Lexis.Session

/-! # Streams over any source

A source may fail at any read, and it may end before its script does. This module unfolds the
operations of a stream into their steps, one equation for each, and says what they do to the flag of
an exhausted stream: an operation raises it exactly when it answers that there was too little. The
calls that read or look at a number of characters are gathered in a type (`Call`), so that
sequences of them can be spoken of. -/

namespace Lexis

namespace Stream

variable {s s' : Stream}

/-! ### Step by step -/

/-- A pull touches neither the buffer nor the position, and a failure tells the position. -/
theorem pull_keeps (s : Stream) :
    match pull s with
    | .ok _ s' => s'.buffer = s.buffer ∧ s'.position = s.position
    | .error f s' => s'.buffer = s.buffer ∧ s'.position = s.position ∧ f.position = s.position := by
  unfold pull
  split_ifs
  · exact ⟨rfl, rfl⟩
  · rcases s.pending with _ | ⟨_ | _ | _, rest⟩ <;> simp

theorem next_of_cons {c : Char} {rest : List Char} (hb : s.buffer = c :: rest) :
    next s = .ok (some c) (({ s with buffer := rest } : Stream).pass c) := by
  rw [next, hb]

theorem next_of_nil (hb : s.buffer = []) :
    next s =
      match pull s with
      | .ok (some c) s₁ => .ok (some c) (s₁.pass c)
      | .ok none s₁ => .ok none s₁
      | .error e s₁ => .error e s₁ := by
  obtain ⟨pending, buffer, exhausted, position⟩ := s
  cases hb
  rfl

theorem takeExactly_zero (s : Stream) : takeExactly 0 s = .ok (some []) s := rfl

theorem takeExactly_succ (n : Nat) (s : Stream) :
    takeExactly (n + 1) s =
      match next s with
      | .ok none s₁ => .ok none s₁
      | .ok (some c) s₁ =>
        match takeExactly n s₁ with
        | .ok o s₂ => .ok (o.map (c :: ·)) s₂
        | .error e s₂ => .error e s₂
      | .error e s₁ => .error e s₁ := by
  simp only [takeExactly, bind, EStateM.bind]
  cases next s with
  | error e s₁ => rfl
  | ok o s₁ =>
    cases o with
    | none => rfl
    | some c =>
      simp only [EStateM.bind]
      cases takeExactly n s₁ <;> rfl

theorem takeExactly_one (s : Stream) :
    takeExactly 1 s =
      match next s with
      | .ok o s₁ => .ok (o.map ([·])) s₁
      | .error e s₁ => .error e s₁ := by
  rw [takeExactly_succ]
  rcases next s with ⟨_ | c, s₁⟩ | ⟨e, s₁⟩ <;> rfl

theorem fill_zero (s : Stream) : fill 0 s = .ok true s := rfl

theorem fill_succ (n : Nat) (s : Stream) :
    fill (n + 1) s =
      match pull s with
      | .ok none s₁ => .ok false s₁
      | .ok (some c) s₁ => fill n { s₁ with buffer := s₁.buffer ++ [c] }
      | .error e s₁ => .error e s₁ := by
  simp only [fill, bind, EStateM.bind]
  cases pull s with
  | error e s₁ => rfl
  | ok o s₁ => cases o <;> rfl

theorem peekExactly_eq (n : Nat) (s : Stream) :
    peekExactly n s =
      match fill (n - s.buffer.length) s with
      | .ok filled s₁ => .ok (if filled then some (s₁.buffer.take n) else none) s₁
      | .error e s₁ => .error e s₁ := by
  simp only [peekExactly, bind, EStateM.bind, get, getThe, MonadStateOf.get, get_apply]
  cases fill (n - s.buffer.length) s <;> rfl

/-! ### The flag of an exhausted stream -/

theorem exhausted_pull {o : Option Char} (h : pull s = .ok o s') :
    s'.exhausted = (s.exhausted || o.isNone) := by
  unfold pull at h
  split at h
  · cases h
    simp [*]
  · split at h <;> cases h <;> simp [*]

@[simp] theorem exhausted_pass (s : Stream) (c : Char) : (s.pass c).exhausted = s.exhausted := rfl

theorem exhausted_next {o : Option Char} (h : next s = .ok o s') :
    s'.exhausted = (s.exhausted || o.isNone) := by
  unfold next at h
  split at h
  · cases h
    simp
  · split at h
    · rename_i c s₁ hpull
      cases h
      simpa using exhausted_pull hpull
    · rename_i s₁ hpull
      cases h
      exact exhausted_pull hpull
    · cases h

theorem exhausted_takeExactly : ∀ (n : Nat) {s s' : Stream} {o : Option (List Char)},
    takeExactly n s = .ok o s' → s'.exhausted = (s.exhausted || o.isNone)
  | 0, s, s', o, h => by
    rw [takeExactly_zero] at h
    cases h
    simp
  | n + 1, s, s', o, h => by
    rw [takeExactly_succ] at h
    split at h
    · rename_i s₁ hnext
      cases h
      exact exhausted_next hnext
    · rename_i c s₁ hnext
      have h₁ := exhausted_next hnext
      split at h
      · rename_i o' s₂ hrest
        cases h
        have h₂ := exhausted_takeExactly n hrest
        simpa [h₁] using h₂
      · cases h
    · cases h

theorem exhausted_fill : ∀ (n : Nat) {s s' : Stream} {filled : Bool},
    fill n s = .ok filled s' → s'.exhausted = (s.exhausted || !filled)
  | 0, s, s', filled, h => by
    rw [fill_zero] at h
    cases h
    simp
  | n + 1, s, s', filled, h => by
    rw [fill_succ] at h
    split at h
    · rename_i s₁ hpull
      cases h
      exact exhausted_pull hpull
    · rename_i c s₁ hpull
      have h₁ := exhausted_pull hpull
      have h₂ := exhausted_fill n h
      simpa [h₁] using h₂
    · cases h

theorem exhausted_peekExactly {n : Nat} {o : Option (List Char)} (h : peekExactly n s = .ok o s') :
    s'.exhausted = (s.exhausted || o.isNone) := by
  rw [peekExactly_eq] at h
  split at h
  · rename_i filled s₁ hfill
    cases h
    cases filled <;> simpa using exhausted_fill _ hfill
  · cases h

end Stream

/-! ### Calls -/

/-- A call on a stream: it reads or looks at a number of characters. -/
inductive Call
  | read (n : Int)
  | lookAhead (n : Int)
  deriving DecidableEq, Repr

namespace Call

/-- The number of characters that is asked for. -/
def count : Call → Int
  | read n => n
  | lookAhead n => n

/-- The call as a request to a session. -/
def request : Call → Request
  | read n => .read n
  | lookAhead n => .lookAhead n

/-- What the call does to a stream. -/
def reading : Call → Reading (Option (List Char))
  | read n => Stream.read n
  | lookAhead n => Stream.lookAhead n

theorem exhausted_reading : ∀ (call : Call) {s s' : Stream} {o : Option (List Char)},
    call.reading s = .ok o s' → s'.exhausted = (s.exhausted || o.isNone)
  | read _, _, _, _, h => Stream.exhausted_takeExactly _ h
  | lookAhead _, _, _, _, h => Stream.exhausted_peekExactly h

end Call

namespace Session

/-- The session that a list of requests leaves, whether they are answered or refused. -/
def after (s : Session) (requests : List Request) : Session :=
  requests.foldl (fun s request => (s.perform request).2) s

@[simp] theorem after_nil (s : Session) : s.after [] = s := rfl

/-- A call is answered by what it reads, or refused for the failure of the source. -/
theorem perform_call (s : Session) (call : Call) :
    s.perform call.request =
      match call.reading s.stream with
      | .ok o rest => (.ok (.chars o), { s with stream := rest })
      | .error f rest => (.error (.reading f), { s with stream := rest }) := by
  cases call with
  | read n =>
    simp only [Call.request, Call.reading, perform, answer, Scan.ofReading,
      EStateM.adaptExcept]
    cases Stream.read n s.stream <;> rfl
  | lookAhead n =>
    simp only [Call.request, Call.reading, perform, answer, Scan.ofReading,
      EStateM.adaptExcept]
    cases Stream.lookAhead n s.stream <;> rfl

end Session

end Lexis
