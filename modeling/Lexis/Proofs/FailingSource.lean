import Lexis.Proofs.Lexeme.Blanks
import Lexis.Proofs.Source.Account

/-! # Sessions over a source that may fail

Whatever calls a session makes over a source that fails now and then, its stream keeps its account:
after each call, answered or refused, what the reads have brought is what was consumed and then what
lies in the buffer (`Session.perform_accounts`, `Session.after_accounts`).

Some requests do not even show that the source fails, provided that a request that is refused is
made again until it is answered (`Session.Insists`): to consume one character, to look ahead, and to
ask whether anything follows. A program of such steps comes to an end
(`Session.exists_insistsAll`) and shows the same as over the source without its failures
(`Session.InsistsAll.showAll_eq`). -/

namespace Lexis

namespace Session

/-! ### The account of a session -/

/-- The characters that a sequence of calls consumes, whether they are answered or refused. -/
def consumed (s : Session) : List Call → List Char
  | [] => []
  | call :: rest => call.taken s.stream ++ (s.perform call.request).2.consumed rest

variable {s : Session} {events reads : List Event} {cs : List Char}

/-- **One call.** The account goes on, and a refusal names the fault of the last read and the
position that is left. -/
theorem perform_accounts (h : s.stream.Accounts events reads cs) (call : Call) :
    ∃ more,
      (s.perform call.request).2.stream.Accounts events (reads ++ more)
        (cs ++ call.taken s.stream) ∧
      ∀ f, (s.perform call.request).1 = .error f →
        ∃ fault, f = .reading ⟨fault, (s.perform call.request).2.stream.position⟩ ∧
          more.getLast? = some (.failure fault) := by
  obtain ⟨more, hmore⟩ := call.leaves_reading s.stream
  rw [perform_call]
  cases hr : call.reading s.stream with
  | ok o rest =>
    rw [hr] at hmore
    exact ⟨more, hmore _ _ _ h, fun f hf => by cases hf⟩
  | error f rest =>
    rw [hr] at hmore
    obtain ⟨hmoves, hlast, hposition⟩ := hmore
    refine ⟨more, hmoves _ _ _ h, fun f' hf' => ⟨f.fault, ?_, hlast⟩⟩
    injection hf' with hf'
    rw [← hf', ← hposition]

/-- **A sequence of calls.** -/
theorem after_accounts (h : s.stream.Accounts events reads cs) (calls : List Call) :
    ∃ more, (s.after (calls.map Call.request)).stream.Accounts events (reads ++ more)
      (cs ++ s.consumed calls) := by
  induction calls generalizing s reads cs with
  | nil => exact ⟨[], by simpa [consumed] using h⟩
  | cons call rest ih =>
    obtain ⟨more, hmore, -⟩ := perform_accounts h call
    obtain ⟨more', hmore'⟩ := ih hmore
    refine ⟨more ++ more', ?_⟩
    rw [consumed, ← List.append_assoc, ← List.append_assoc]
    exact hmore'

/-! ### Steps that are repeated until they are answered -/

/-- A step that can be repeated: it consumes one character, looks ahead, or asks whether anything
follows the blanks. -/
inductive Step
  | read
  | lookAhead (n : Int)
  | hasNext
  deriving DecidableEq, Repr

/-- The step as a request. -/
def Step.request : Step → Request
  | read => .read 1
  | lookAhead n => .lookAhead n
  | hasNext => .hasNext

/-- The request, made again as long as it is refused, is answered at last. -/
inductive Insists : Session → Request → Reply → Session → Prop
  | answered {s s' : Session} {request : Request} {reply : Reply} :
      s.perform request = (.ok reply, s') → Insists s request reply s'
  | again {s s' s'' : Session} {request : Request} {reply : Reply} {f : Failure} :
      s.perform request = (.error f, s') → Insists s' request reply s'' →
      Insists s request reply s''

/-- What is shown behind a request: the reply, the position, and whether the stream is known to be
empty. -/
abbrev Shown (α : Type) := α × Position × Bool

/-- The requests of a program, each made until it is answered, show the given list. -/
inductive InsistsAll : Session → List Request → List (Shown Reply) → Prop
  | nil {s : Session} : InsistsAll s [] []
  | cons {s s' : Session} {request : Request} {rest : List Request} {reply : Reply}
      {shown : List (Shown Reply)} :
      Insists s request reply s' → InsistsAll s' rest shown →
      InsistsAll s (request :: rest) ((reply, s'.stream.position, s'.stream.isEmpty) :: shown)

/-- What a program shows of which each request is made once. -/
def showAll (s : Session) (program : List Request) : List (Shown (Except Failure Reply)) :=
  (s.performAll program).map fun (reply, s') => (reply, s'.stream.position, s'.stream.isEmpty)

/-- The session over the same source, of which every read succeeds. -/
def withoutFailures (s : Session) : Session := { s with stream := s.stream.withoutFailures }

theorem answer_withoutFailures {α : Type} {scan : Scan α} (h : Repeatable scan) (reply : α → Reply)
    (s : Session) :
    match s.answer scan reply with
    | (.ok a, s') => s.withoutFailures.answer scan reply = (.ok a, s'.withoutFailures)
    | (.error _, s') =>
      s'.withoutFailures.answer scan reply = s.withoutFailures.answer scan reply ∧
        s'.stream.failures < s.stream.failures := by
  unfold answer
  cases hscan : scan s.stream with
  | ok a rest =>
    obtain ⟨hagain, -⟩ := (h s.stream).ok hscan
    simp only [withoutFailures, hagain]
  | error e rest =>
    obtain ⟨hagain, hfailures⟩ := (h s.stream).error hscan
    simp only [withoutFailures, hagain, hfailures, and_self]

/-- A step succeeds only as it does without failures. Where it is refused, it can be made again. -/
theorem perform_withoutFailures : ∀ (step : Step) (s : Session),
    match s.perform step.request with
    | (.ok a, s') => s.withoutFailures.perform step.request = (.ok a, s'.withoutFailures)
    | (.error _, s') =>
      s'.withoutFailures.perform step.request = s.withoutFailures.perform step.request ∧
        s'.stream.failures < s.stream.failures
  | .read, s =>
    answer_withoutFailures (Scan.repeatable_ofReading Stream.repeatable_takeExactly_one) .chars s
  | .lookAhead n, s =>
    answer_withoutFailures (Scan.repeatable_ofReading (Stream.repeatable_peekExactly n.toNat))
      .chars s
  | .hasNext, s => answer_withoutFailures Scan.repeatable_hasNext .flag s

/-- A step that is answered at last is answered as without failures. -/
theorem Insists.withoutFailures {s s' : Session} {step : Step} {reply : Reply}
    (h : s.Insists step.request reply s') :
    s.withoutFailures.perform step.request = (.ok reply, s'.withoutFailures) := by
  generalize hr : step.request = request at h
  induction h with
  | @answered s s' _ reply hp =>
    subst hr
    have hstep := perform_withoutFailures step s
    simp only [hp] at hstep
    exact hstep
  | @again s s' s'' _ reply f hp _ ih =>
    subst hr
    have hstep := perform_withoutFailures step s
    simp only [hp] at hstep
    rw [← hstep.1]
    exact ih rfl

/-- Every step is answered at last, since a refusal uses up a failure of the source. -/
theorem exists_insists (step : Step) : ∀ (failures : Nat) (s : Session),
    s.stream.failures < failures → ∃ reply s', s.Insists step.request reply s'
  | 0, s, h => by omega
  | failures + 1, s, h => by
    have hstep := perform_withoutFailures step s
    cases hp : s.perform step.request with
    | mk answer s' =>
      cases answer with
      | ok reply => exact ⟨reply, s', .answered hp⟩
      | error f =>
        simp only [hp] at hstep
        obtain ⟨reply, s'', hrest⟩ := exists_insists step failures s' (by omega)
        exact ⟨reply, s'', .again hp hrest⟩

theorem InsistsAll.showAll_eq {s : Session} {program : List Step} {shown : List (Shown Reply)}
    (h : s.InsistsAll (program.map Step.request) shown) :
    s.withoutFailures.showAll (program.map Step.request) =
      shown.map fun (reply, rest) => (.ok reply, rest) := by
  induction program generalizing s shown with
  | nil =>
    cases h
    rfl
  | cons step rest ih =>
    cases h with
    | cons hstep hrest =>
      have hp := hstep.withoutFailures
      have hshown := ih hrest
      simp only [showAll] at hshown
      simp only [showAll, List.map_cons, performAll, hp, hshown]
      rfl

theorem exists_insistsAll (program : List Step) :
    ∀ s : Session, ∃ shown, s.InsistsAll (program.map Step.request) shown := by
  induction program with
  | nil => exact fun s => ⟨[], .nil⟩
  | cons step rest ih =>
    intro s
    obtain ⟨reply, s', hstep⟩ := exists_insists step _ s (Nat.lt_succ_self _)
    obtain ⟨shown, hrest⟩ := ih s'
    exact ⟨_, .cons hstep hrest⟩

/-- A program shows one list only, since without failures it does. -/
theorem InsistsAll.unique {s : Session} {program : List Step} {shown shown' : List (Shown Reply)}
    (h : s.InsistsAll (program.map Step.request) shown)
    (h' : s.InsistsAll (program.map Step.request) shown') : shown' = shown := by
  have hinjective : Function.Injective
      fun (shown : Shown Reply) => ((.ok shown.1, shown.2) : Shown (Except Failure Reply)) := by
    rintro ⟨reply, rest⟩ ⟨reply', rest'⟩ heq
    simp only [Prod.mk.injEq, Except.ok.injEq] at heq
    rw [heq.1, heq.2]
  have hsame := h'.showAll_eq.symm.trans h.showAll_eq
  exact List.map_injective_iff.2 hinjective hsame

/-! ### The main statement -/

/-- **A source that fails loses and doubles nothing.** Take any script of reads and any sequence of
calls on a stream over it. Before and after each further call, answered or refused, what the reads
made so far have brought is what was consumed and then what lies in the buffer, the position is that
behind the consumed characters, and no read is made behind one that brought no data. A read that is
answered has consumed its answer. A call is refused for the fault of the last read, with the position
that is left, so its offset and the length of the buffer are the number of characters brought.

Steps that consume one character, look ahead, or ask whether anything follows can be repeated: a
program of them, of which each is made until it is answered, comes to an end and shows one list, and
over the script without its failures it shows the same list with nothing refused. -/
theorem accounts_and_repeats (events : List Event) :
    (∀ (calls : List Call) (call : Call),
      let s₀ := ofStream (Stream.ofEvents events)
      let s := s₀.after (calls.map Call.request)
      let s' := (s.perform call.request).2
      ∃ reads more,
        s.stream.Accounts events reads (s₀.consumed calls) ∧
        s'.stream.Accounts events (reads ++ more) (s₀.consumed calls ++ call.taken s.stream) ∧
        (.noData ∈ reads → more = []) ∧
        (∀ n cs, call = .read n → (s.perform call.request).1 = .ok (.chars (some cs)) →
          call.taken s.stream = cs) ∧
        ∀ f, (s.perform call.request).1 = .error f →
          ∃ fault, f = .reading ⟨fault, s'.stream.position⟩ ∧
            more.getLast? = some (.failure fault) ∧
            ((Event.delivered (reads ++ more)).length : Int) =
              s'.stream.position.offset + s'.stream.buffer.length) ∧
      ∀ program : List Step, ∃ shown : List (Shown Reply),
        (∀ shown',
          (ofStream (Stream.ofEvents events)).InsistsAll (program.map Step.request) shown' ↔
            shown' = shown) ∧
        (ofStream (Stream.ofEvents (events.filter fun e => !e.isFailure))).showAll
            (program.map Step.request) =
          shown.map fun (reply, rest) => (.ok reply, rest) := by
  constructor
  · intro calls call s₀ s s'
    have hfresh : s₀.stream.Accounts events [] [] := Stream.accounts_ofEvents events
    obtain ⟨reads, hreads⟩ := after_accounts hfresh calls
    obtain ⟨more, hmore, hrefused⟩ := perform_accounts hreads call
    refine ⟨reads, more, hreads, hmore, hmore.more_eq_nil, ?_, fun f hf => ?_⟩
    · rintro n cs rfl hanswer
      rw [perform_call] at hanswer
      cases hr : (Call.read n).reading s.stream with
      | error f rest => simp [hr] at hanswer
      | ok o rest =>
        simp only [hr, Except.ok.injEq, Reply.chars.injEq] at hanswer
        rw [hanswer] at hr
        exact Call.taken_of_read hr
    · obtain ⟨fault, hfault, hlast⟩ := hrefused f hf
      exact ⟨fault, hfault, hlast, hmore.length_delivered⟩
  · intro program
    obtain ⟨shown, hshown⟩ := exists_insistsAll program (ofStream (Stream.ofEvents events))
    refine ⟨shown, fun shown' => ⟨hshown.unique, ?_⟩, hshown.showAll_eq⟩
    rintro rfl
    exact hshown

/-- A read of two characters that fails behind the first, which a look ahead has left in the
buffer. -/
theorem accounts_and_repeats_of_failed_read :
    let events : List Event := [.char '\n', .failure .system, .char 'b', .noData, .char 'c']
    let s₀ := ofStream (Stream.ofEvents events)
    let s := s₀.after [.lookAhead 1]
    let s' := (s.perform (.read 2)).2
    (s.perform (.read 2)).1 = .error (.reading ⟨.system, ⟨0, 1, 1, true⟩⟩) ∧
      ∃ reads more,
        s'.stream.Accounts events (reads ++ more)
          (s₀.consumed [.lookAhead 1] ++ (Call.read 2).taken s.stream) ∧
        more.getLast? = some (.failure .system) ∧
        ((Event.delivered (reads ++ more)).length : Int) =
          s'.stream.position.offset + s'.stream.buffer.length := by
  intro events s₀ s s'
  have hrefused : (s.perform (.read 2)).1 = .error (.reading ⟨.system, ⟨0, 1, 1, true⟩⟩) := by
    decide
  obtain ⟨reads, more, -, haccounts, -, -, hfailure⟩ :=
    (accounts_and_repeats events).1 [.lookAhead 1] (.read 2)
  obtain ⟨fault, hfault, hlast, hlength⟩ := hfailure _ hrefused
  obtain rfl : Fault.system = fault := by
    injection hfault with hfault
    injection hfault
  exact ⟨hrefused, reads, more, haccounts, hlast, hlength⟩

end Session

end Lexis
