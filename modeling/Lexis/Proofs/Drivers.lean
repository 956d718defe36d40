import Lexis.Proofs.Session
import Lexis.Proofs.Source.Operations

/-! # All ways to drive a session agree

The tokens of a text can be asked for in several ways: by the question whether one follows, for the
next token with or without that question, or by the steps of a walk, and the stream may be looked
into at any time. In whatever order they come, each of these requests takes the run over the text
ahead one step further, or leaves it where it is (`Session.perform_heard`). So up to the first
refusal the session delivers the tokens of a fresh run, one after the other, each with the start
that it has there; it says that no token follows only behind the last of them; and it is refused for
the failure of the fresh run, or because a token was asked for where only blanks were left
(`Session.drives_agree`).

Made again and again, a request for the next token goes along the whole run, and so does a step of a
walk (`Session.Steps.answers`). -/

namespace Lexis

open CharClass

/-- A request for a token, or one that leaves the tokens alone. -/
inductive Drive
  | hasNext
  | token
  | next
  | walk
  | freshWalk
  | lookAhead (n : Int)
  deriving DecidableEq, Repr

namespace Drive

/-- The request to a session. -/
def request : Drive → Request
  | hasNext => .hasNext
  | token => .token
  | next => .next
  | walk => .walk
  | freshWalk => .freshWalk
  | lookAhead n => .lookAhead n

end Drive

/-- The token that a reply delivers, with its start if the reply tells it. -/
def Reply.delivered : Reply → Option (Option Position × Token)
  | .token t => some (none, t)
  | .token? t => t.map fun t => (none, t)
  | .positioned t => t.map fun (p, t) => (some p, t)
  | .flag _ | .tokens _ | .chars _ | .done => none

/-- The reply says that no token follows. -/
def Reply.ends : Reply → Bool
  | .token? t => t.isNone
  | .positioned t => t.isNone
  | .flag _ | .token _ | .tokens _ | .chars _ | .done => false

theorem Reply.ends_eq_false {reply : Reply} {t : Option Position × Token}
    (h : reply.delivered = some t) : reply.ends = false := by
  cases reply with
  | token? o | positioned o =>
    obtain ⟨_, rfl, -⟩ := Option.map_eq_some_iff.1 h
    rfl
  | _ => rfl

/-- A delivered token is the given one, and has its start if it has any. -/
def Agrees (t : Option Position × Token) (u : Position × Token) : Prop :=
  t.2 = u.2 ∧ ∀ p ∈ t.1, p = u.1

/-- The replies up to the first refusal. -/
def repliesOf : List (Except Failure Reply) → List Reply
  | .ok reply :: rest => reply :: repliesOf rest
  | .error _ :: _ | [] => []

/-- The first refusal. -/
def refusalOf : List (Except Failure Reply) → Option Failure
  | .ok _ :: rest => refusalOf rest
  | .error f :: _ => some f
  | [] => none

/-- The answers to a request that is made once for every token of the run, and once more. -/
def TokenRun.answers (r : TokenRun) (reply : Option (Position × Token) → Reply) :
    List (Except Failure Reply) :=
  r.tokens.map (fun t => .ok (reply (some t))) ++
    [match r.failure with
      | none => .ok (reply none)
      | some e => .error e]

namespace Scanned

variable {α β : Type}

@[simp] theorem rest_map (f : α → β) (o : Scanned α) : (o.map f).rest = o.rest := by
  cases o <;> rfl

@[simp] theorem reply_map (text : List Char) (f : α → β) (reply : β → Reply) (o : Scanned α) :
    (o.map f).reply text reply = o.reply text fun a => reply (f a) := by
  cases o <;> rfl

end Scanned

namespace Session

variable {text ahead : List Char} {s : Session} {drive : Drive}

/-! ### One request -/

/-- The run over the text ahead finds no token, and nothing stops it. -/
def Ended (ahead : List Char) : Prop := Ahead.run ahead = ⟨[], none, []⟩

/-- What a request may be answered in front of `ahead` that leaves the session in front of `rest`,
as it looks to the run over the text. That no token follows is also said by a walk that was over
already. -/
inductive Heard (text ahead rest : List Char) (isOver : Bool) : Drive → Except Failure Reply → Prop
  | quiet {drive : Drive} {reply : Reply} : reply.delivered = none →
      (reply.ends = true → isOver = true ∨ Ended ahead) →
      Ahead.run rest = Ahead.run ahead → Heard text ahead rest isOver drive (.ok reply)
  | token {drive : Drive} {reply : Reply} {t : Option Position × Token}
      {p : List Char × Token} : reply.delivered = some t → Agrees t (TokenRun.locate text p) →
      Ahead.run ahead = { Ahead.run rest with tokens := p :: (Ahead.run rest).tokens } →
      Heard text ahead rest isOver drive (.ok reply)
  | failed {drive : Drive} {f : Cause × List Char} : (Ahead.run ahead).tokens = [] →
      (Ahead.run ahead).failure = some f →
      Heard text ahead rest isOver drive (.error (.lexing (TokenRun.locateFailure text f)))
  | nothing : IsGap ahead →
      Heard text ahead rest isOver .token (.error (.lexing ⟨.noToken, .ofSuffix text []⟩))

section Heard
variable {rest : List Char} {isOver : Bool} {drive : Drive} {reply : Reply}

/-- Who says that no token follows is right, if a walk that is over is. -/
theorem Heard.ended_of_ends (h : Heard text ahead rest isOver drive (.ok reply))
    (hover : isOver = true → Ended ahead) (hends : reply.ends = true) : Ended ahead := by
  cases h with
  | quiet _ hended _ => exact (hended hends).elim hover id
  | token hsome _ _ =>
    rw [Reply.ends_eq_false hsome] at hends
    cases hends

/-- An answered request leaves the end where it is. -/
theorem Heard.ended (h : Heard text ahead rest isOver drive (.ok reply)) (hended : Ended ahead) :
    Ended rest := by
  cases h with
  | quiet _ _ hrun => exact hrun.trans hended
  | token _ _ hrun =>
    rw [Ended, hrun] at hended
    cases congrArg Ahead.Run.tokens hended

end Heard

theorem run_behindBlanks (t : List Char) : Ahead.run (Ahead.behindBlanks t) = Ahead.run t := by
  obtain ⟨gap, ht, hgap, -⟩ := Ahead.behindBlanks_eq_iff.1 (rfl : Ahead.behindBlanks t = _)
  conv_rhs => rw [ht]
  exact (Ahead.run_append_of_gap hgap).symm

/-- A step of a run is heard as the token, the end or the failure that it comes to. -/
theorem heard_of_positioned? {isOver : Bool} {drive : Drive}
    {reply : Option (List Char × Token) → Reply} (hnone : (reply none).delivered = none)
    (hsome : ∀ p, ∃ t, (reply (some p)).delivered = some t ∧ Agrees t (TokenRun.locate text p)) :
    Heard text ahead (Ahead.positioned? ahead).rest isOver drive
      ((Ahead.positioned? ahead).reply text reply) := by
  cases hp : Ahead.positioned? ahead with
  | failed cause place _ =>
    have hrun := Ahead.run_of_failed hp
    have hfailure : (Ahead.run ahead).failure = some (cause, place) := by rw [hrun]
    exact .failed (by rw [hrun]) hfailure
  | found a rest =>
    cases a with
    | none =>
      obtain ⟨hgap, rfl⟩ := Ahead.positioned?_eq_found_none_iff.1 hp
      refine .quiet hnone (fun _ => Or.inr (Ahead.run_of_gap hgap)) ?_
      show Ahead.run [] = _
      rw [Ahead.run_of_gap hgap, Ahead.run_of_gap isGap_nil]
    | some p =>
      obtain ⟨t, ht, hagrees⟩ := hsome p
      exact .token ht hagrees (Ahead.run_of_found hp)

/-- The next token is heard as a step of the run, except where nothing is left but blanks. -/
theorem heard_token {isOver : Bool} : Heard text ahead (Ahead.token ahead).rest isOver .token
    ((Ahead.token ahead).reply text .token) := by
  cases hb : Ahead.behindBlanks ahead with
  | nil =>
    have hwhole : Ahead.token ahead = .failed .noToken [] [] := by
      rw [Ahead.token, hb]
      rfl
    obtain ⟨gap, rfl, hgap, -⟩ := Ahead.behindBlanks_eq_iff.1 hb
    rw [List.append_nil] at hwhole ⊢
    rw [hwhole]
    exact .nothing hgap
  | cons c w =>
    have hp : Ahead.positioned? ahead = (Ahead.token ahead).map fun t => some (c :: w, t) := by
      rw [Ahead.positioned?, Ahead.token, hb]
    let reply : Option (List Char × Token) → Reply := fun o => (o.map (.token ·.2)).getD .done
    have hheard : Heard text ahead (Ahead.positioned? ahead).rest isOver .token
        ((Ahead.positioned? ahead).reply text reply) :=
      heard_of_positioned? rfl fun p => ⟨(none, p.2), rfl, rfl, fun q hq => by cases hq⟩
    rw [hp, Scanned.rest_map, Scanned.reply_map] at hheard
    exact hheard

theorem heard_next {isOver : Bool} : Heard text ahead (Ahead.positioned? ahead).rest isOver .next
    (((Ahead.positioned? ahead).map (Option.map (·.2))).reply text .token?) := by
  rw [Scanned.reply_map]
  exact heard_of_positioned? rfl fun p => ⟨(none, p.2), rfl, rfl, fun q hq => by cases hq⟩

/-- A step of a walk that is not over is heard as a step of the run, with the start of the token. -/
theorem heard_stepWalk (hs : s.stream.At text ahead) (hwalk : s.walkOver = false) :
    s.stepWalk.2.stream.At text (Ahead.positioned? ahead).rest ∧
      Heard text ahead (Ahead.positioned? ahead).rest s.walkOver .walk s.stepWalk.1 := by
  obtain ⟨hreply, hat, -⟩ := stepWalk_answer hs hwalk
  rw [hreply]
  exact ⟨hat, heard_of_positioned? rfl fun p =>
    ⟨(some (.ofSuffix text p.1), p.2), rfl, rfl, fun q hq => (Option.mem_some.1 hq).symm⟩⟩

/-- **One request.** It leaves the session in the text, and is heard as a step of the run or as
none. -/
theorem perform_heard (hs : s.stream.At text ahead) :
    ∀ drive : Drive, ∃ rest, (s.perform drive.request).2.stream.At text rest ∧
      Heard text ahead rest s.walkOver drive (s.perform drive.request).1
  | .hasNext => by
    obtain ⟨hreply, hat⟩ := answer_at hs Scan.comes_hasNext .flag
    refine ⟨_, hat, ?_⟩
    show Heard _ _ _ _ _ (s.answer Scan.hasNext .flag).1
    rw [hreply]
    exact .quiet rfl nofun (run_behindBlanks ahead)
  | .token => by
    obtain ⟨hreply, hat⟩ := answer_at hs Scan.comes_token .token
    refine ⟨_, hat, ?_⟩
    show Heard _ _ _ _ _ (s.answer Scan.token .token).1
    rw [hreply]
    exact heard_token
  | .next => by
    obtain ⟨hreply, hat⟩ := answer_at hs Scan.comes_token? .token?
    rw [Scanned.rest_map] at hat
    refine ⟨_, hat, ?_⟩
    show Heard _ _ _ _ _ (s.answer Scan.token? .token?).1
    rw [hreply]
    exact heard_next
  | .walk => by
    by_cases hwalk : s.walkOver = true
    · refine ⟨ahead, ?_⟩
      show s.stepWalk.2.stream.At text ahead ∧ Heard _ _ _ _ _ s.stepWalk.1
      rw [stepWalk_of_walkOver hwalk]
      exact ⟨hs, .quiet rfl (fun _ => Or.inl hwalk) rfl⟩
    · exact ⟨_, heard_stepWalk hs (Bool.eq_false_iff.2 hwalk)⟩
  | .freshWalk => ⟨ahead, hs, .quiet rfl nofun rfl⟩
  | .lookAhead n => by
    obtain ⟨hreply, hat⟩ := answer_at hs (Scan.comes_peekExactly n.toNat) .chars
    refine ⟨ahead, hat, ?_⟩
    show Heard _ _ _ _ _ (s.answer (Scan.ofReading (Stream.lookAhead n)) .chars).1
    rw [Stream.lookAhead, hreply]
    exact .quiet rfl nofun rfl

theorem walkOver_answer {α : Type} (scan : Scan α) (reply : α → Reply) (s : Session) :
    (s.answer scan reply).2.walkOver = s.walkOver := by
  rw [answer]
  split <;> rfl

/-- A walk is over when it was so before, when its step finds no token, and when it fails. -/
theorem walkOver_perform (h : (s.perform drive.request).2.walkOver = true) :
    s.walkOver = true ∨ (s.perform drive.request).1 = .ok (.positioned none) ∨
      ∃ e, (s.perform drive.request).1 = .error e := by
  cases drive with
  | hasNext | token | next | lookAhead => exact Or.inl ((walkOver_answer _ _ s).symm.trans h)
  | freshWalk => cases h
  | walk =>
    by_cases hwalk : s.walkOver = true
    · exact Or.inl hwalk
    · simp only [Drive.request, perform, stepWalk, if_neg hwalk] at h ⊢
      split at h
      · cases h
      · exact Or.inr (Or.inl rfl)
      · exact Or.inr (Or.inr ⟨_, rfl⟩)

/-- So a walk is over only where no token follows, as long as nothing is refused. -/
theorem Heard.ended_of_walkOver {rest : List Char} {reply : Reply}
    (h : Heard text ahead rest s.walkOver drive (.ok reply))
    (hanswer : (s.perform drive.request).1 = .ok reply) (hover : s.walkOver = true → Ended ahead)
    (hwalk : (s.perform drive.request).2.walkOver = true) : Ended rest := by
  refine h.ended ?_
  rcases walkOver_perform hwalk with hwas | hnone | ⟨e, he⟩
  · exact hover hwas
  · rw [hanswer] at hnone
    cases hnone
    exact h.ended_of_ends hover rfl
  · rw [hanswer] at he
    cases he

/-! ### Whether a token follows -/

theorem not_isEmpty_behindBlanks (t : List Char) :
    (!(Ahead.behindBlanks t).isEmpty) = t.any fun c => !isBlank c := by
  rw [Bool.eq_iff_iff, Bool.not_eq_true', ← Bool.not_eq_true, List.isEmpty_iff, Ahead.behindBlanks,
    List.dropWhile_eq_nil_iff, List.any_eq_true]
  simp only [not_forall, Bool.not_eq_true', exists_prop, Bool.not_eq_true]

theorem Reachable.after {s : Session} (h : Reachable text s) (requests : List Request) :
    Reachable text (s.after requests) := by
  induction requests generalizing s with
  | nil => exact h
  | cons request rest ih => exact ih (.step request h)

/-- A token follows when some character that is no blank is ahead, and the question passes the
blanks. -/
theorem perform_hasNext_at {ahead : List Char} (hs : s.stream.At text ahead) :
    (s.perform .hasNext).1 = .ok (.flag (ahead.any fun c => !isBlank c)) ∧
      (s.perform .hasNext).2.stream.At text (Ahead.behindBlanks ahead) := by
  obtain ⟨hreply, hat⟩ := answer_at hs Scan.comes_hasNext .flag
  rw [Scanned.reply, not_isEmpty_behindBlanks] at hreply
  exact ⟨hreply, hat⟩

theorem perform_hasNext (h : Reachable text s) :
    (s.perform .hasNext).1 = .ok (.flag (s.stream.unread.any fun c => !isBlank c)) := by
  obtain ⟨ahead, hat⟩ := h.exists_at
  rw [hat.unread_eq]
  exact (perform_hasNext_at hat).1

/-! ### Any sequence of requests -/

/-- The request at place `n` asks for a token where nothing is left but blanks. -/
def AsksAtEnd (s : Session) (drives : List Drive) (n : Nat) : Prop :=
  drives[n]? = some .token ∧ IsGap (s.after ((drives.take n).map Drive.request)).stream.unread

/-- The refusal of the request at place `n` is that of the run over `ahead`, or comes from asking
for a token at the end of a run that nothing stops. -/
def Refused (text ahead : List Char) (s : Session) (drives : List Drive) (n : Nat) (e : Failure) :
    Prop :=
  (∃ f, (Ahead.run ahead).failure = some f ∧ e = .lexing (TokenRun.locateFailure text f)) ∨
    (Ahead.run ahead).failure = none ∧ e = .lexing ⟨.noToken, .ofSuffix text []⟩ ∧
      s.AsksAtEnd drives n

/-- A refused request finds no tokens ahead. -/
theorem Heard.refused {rest : List Char} {isOver : Bool} {e : Failure}
    (h : Heard text ahead rest isOver drive (.error e)) (hs : s.stream.At text ahead)
    (drives : List Drive) :
    (Ahead.run ahead).tokens = [] ∧ Refused text ahead s (drive :: drives) 0 e := by
  cases h with
  | failed hnil hfailure => exact ⟨hnil, Or.inl ⟨_, hfailure, rfl⟩⟩
  | nothing hgap =>
    have hrun := Ahead.run_of_gap hgap
    refine ⟨by rw [hrun], Or.inr ⟨by rw [hrun], rfl, rfl, ?_⟩⟩
    show IsGap s.stream.unread
    rwa [hs.unread_eq]

/-- A request in front makes no difference to a refusal, if the run is not stopped otherwise. -/
theorem Refused.cons {ahead' : List Char} {drive : Drive} {drives : List Drive} {n : Nat}
    {e : Failure} (h : Refused text ahead' (s.perform drive.request).2 drives n e)
    (hrun : (Ahead.run ahead').failure = (Ahead.run ahead).failure) :
    Refused text ahead s (drive :: drives) (n + 1) e := by
  rw [Refused, ← hrun]
  exact h

/-- **A sequence of requests**, by induction on it: each delivers the next token of the run, or
none. -/
theorem performAll_heard (hs : s.stream.At text ahead) (hover : s.walkOver = true → Ended ahead)
    (drives : List Drive) :
    let replies := (s.performAll (drives.map Drive.request)).map (·.1)
    ∃ delivered rest, (Ahead.run ahead).tokens.map (TokenRun.locate text) = delivered ++ rest ∧
      List.Forall₂ Agrees ((repliesOf replies).filterMap Reply.delivered) delivered ∧
      (∀ reply ∈ repliesOf replies, reply.ends = true →
        rest = [] ∧ (Ahead.run ahead).failure = none) ∧
      ∀ e, refusalOf replies = some e →
        rest = [] ∧ Refused text ahead s drives (repliesOf replies).length e := by
  induction drives generalizing s ahead with
  | nil =>
    refine ⟨[], _, rfl, .nil, fun reply hmem => ?_, fun e he => ?_⟩
    · cases hmem
    · cases he
  | cons drive drives ih =>
    obtain ⟨ahead', hat, hheard⟩ := perform_heard hs drive
    simp only [List.map_cons, performAll]
    cases hanswer : (s.perform drive.request).1 with
    | error f =>
      rw [hanswer] at hheard
      obtain ⟨hnil, hrefused⟩ := hheard.refused hs drives
      simp only [repliesOf, refusalOf, List.filterMap_nil, List.length_nil]
      refine ⟨[], [], by rw [hnil]; rfl, .nil, fun reply hmem => ?_, fun e he => ⟨rfl, ?_⟩⟩
      · cases hmem
      · rwa [← Option.some.inj he]
    | ok reply =>
      rw [hanswer] at hheard
      have hends : reply.ends = true → Ended ahead := hheard.ended_of_ends hover
      obtain ⟨delivered, rest, htokens, hagree, hlater, hrefusal⟩ :=
        ih hat (hheard.ended_of_walkOver hanswer hover)
      cases hheard with
      | quiet hnone _ hrun =>
        rw [hrun] at htokens hlater
        refine ⟨delivered, rest, htokens, ?_, fun reply' hmem hends' => ?_, fun e he => ?_⟩
        · rw [repliesOf, List.filterMap_cons_none hnone]
          exact hagree
        · cases hmem with
          | head =>
            have hended : Ahead.run ahead = ⟨[], none, []⟩ := hends hends'
            rw [hended, List.map_nil] at htokens
            exact ⟨(List.append_eq_nil_iff.1 htokens.symm).2, by rw [hended]⟩
          | tail _ hmem => exact hlater reply' hmem hends'
        · obtain ⟨hrest, hrefused⟩ := hrefusal e he
          exact ⟨hrest, hrefused.cons (by rw [hrun])⟩
      | @token _ _ t p hsome hagrees hrun =>
        refine ⟨TokenRun.locate text p :: delivered, rest, ?_, ?_, fun reply' hmem hends' => ?_,
          fun e he => ?_⟩
        · rw [hrun, List.map_cons, htokens, List.cons_append]
        · rw [repliesOf, List.filterMap_cons_some hsome]
          exact .cons hagrees hagree
        · cases hmem with
          | head =>
            rw [Reply.ends_eq_false hsome] at hends'
            cases hends'
          | tail _ hmem =>
            rw [hrun]
            exact hlater reply' hmem hends'
        · obtain ⟨hrest, hrefused⟩ := hrefusal e he
          exact ⟨hrest, hrefused.cons (by rw [hrun])⟩

/-! ### One request again and again -/

/-- As long as no walk is over, the request is answered by a step of the run. -/
def Steps (text : List Char) (request : Request) (reply : Option (Position × Token) → Reply) :
    Prop :=
  ∀ (s : Session) (ahead : List Char), s.stream.At text ahead → s.walkOver = false →
    (s.perform request).1 =
        (Ahead.positioned? ahead).reply text (fun o => reply (o.map (TokenRun.locate text))) ∧
      (s.perform request).2.stream.At text (Ahead.positioned? ahead).rest ∧
      ∀ p rest, Ahead.positioned? ahead = .found (some p) rest →
        (s.perform request).2.walkOver = false

theorem steps_next (text : List Char) : Steps text .next fun o => .token? (o.map (·.2)) := by
  intro s ahead hs hwalk
  obtain ⟨hreply, hat⟩ := answer_at hs Scan.comes_token? .token?
  rw [Scanned.reply_map] at hreply
  rw [Scanned.rest_map] at hat
  refine ⟨?_, hat, fun _ _ _ => (walkOver_answer ..).trans hwalk⟩
  simp only [Option.map_map, TokenRun.snd_comp_locate]
  exact hreply

theorem steps_walk (text : List Char) : Steps text .walk .positioned := by
  intro s ahead hs hwalk
  obtain ⟨hreply, hat, hgoes⟩ := stepWalk_answer hs hwalk
  exact ⟨hreply, hat, fun p rest hp => hgoes.2 ⟨p, rest, hp⟩⟩

/-- **Again and again.** The answers go along the run, by induction on its steps. -/
theorem Steps.answers {request : Request} {reply : Option (Position × Token) → Reply}
    (hsteps : Steps text request reply) (hs : s.stream.At text ahead) (hwalk : s.walkOver = false)
    {r : TokenRun} (htokens : r.tokens = (Ahead.run ahead).tokens.map (TokenRun.locate text))
    (hfailure : r.failure =
      (Ahead.run ahead).failure.map fun f => .lexing (TokenRun.locateFailure text f)) :
    (s.performAll (List.replicate (r.tokens.length + 1) request)).map (·.1) = r.answers reply := by
  induction ahead using Ahead.run.induct generalizing s r with
  | case1 ahead rest hp =>
    obtain ⟨hanswer, -, -⟩ := hsteps s _ hs hwalk
    obtain ⟨hgap, -⟩ := Ahead.positioned?_eq_found_none_iff.1 hp
    rw [Ahead.run_of_gap hgap] at htokens hfailure
    rw [TokenRun.answers, htokens, hfailure]
    show [(s.perform request).1] = [_]
    rw [hanswer, hp]
    rfl
  | case2 ahead p rest hp ih =>
    obtain ⟨hanswer, hat, hgoes⟩ := hsteps s _ hs hwalk
    rw [Ahead.run_of_found hp] at htokens hfailure
    rw [hp] at hanswer hat
    have hlater := ih hat (hgoes p rest hp) (r := ⟨_, r.failure, r.rest⟩) rfl hfailure
    simp only [TokenRun.answers, htokens, List.map_cons, List.length_cons] at hlater ⊢
    rw [List.replicate_succ, performAll, List.map_cons, hlater, hanswer]
    rfl
  | case3 ahead cause place rest hp =>
    obtain ⟨hanswer, -, -⟩ := hsteps s _ hs hwalk
    rw [Ahead.run_of_failed hp] at htokens hfailure
    rw [TokenRun.answers, htokens, hfailure]
    show [(s.perform request).1] = [_]
    rw [hanswer, hp]
    rfl

/-! ### All ways -/

/-- **All ways to drive a session agree.** Make any sequence of requests on a fresh session over a
text, and take what it answers up to the first refusal. The tokens that it delivers are the first
tokens of a fresh run, in order, each with the start that the run reports if it tells one. If it
says that no token follows, it has delivered all of them and the run is not stopped. If it is
refused, it has delivered all of them too, and the refusal is that of the fresh run, or the run is
not stopped and the request asked for a token where nothing was left but blanks: then no token is
found at the end of the text.

The fresh run is what comes of asking for the next token again and again, and with the starts, of
taking the steps of a walk: each token is delivered, and then the end is told, or the request is
refused for the failure of the run. Lexing the whole text gives the same tokens, or the same
failure.

What a refusal says and where does not depend on the text that is at hand for its report. Whatever
was requested, the session answers that a token follows exactly when some character that is no blank
is left. -/
theorem drives_agree (text : List Char) (drives : List Drive) :
    let s := ofStream (Stream.ofText text)
    let replies := (s.performAll (drives.map Drive.request)).map (·.1)
    let fresh := TokenRun.ofText text
    let again := fun request =>
      (s.performAll (List.replicate (fresh.tokens.length + 1) request)).map (·.1)
    let left := s.after (drives.map Drive.request)
    (∃ delivered rest, fresh.tokens = delivered ++ rest ∧
      List.Forall₂ Agrees ((repliesOf replies).filterMap Reply.delivered) delivered ∧
      (∀ reply ∈ repliesOf replies, reply.ends = true → rest = [] ∧ fresh.failure = none) ∧
      ∀ e, refusalOf replies = some e → rest = [] ∧
        (fresh.failure = some e ∨
          fresh.failure = none ∧ s.AsksAtEnd drives (repliesOf replies).length ∧
            ∃ p, e = .lexing ⟨.noToken, p⟩ ∧ p = Position.start.advance text ∧
              p.offset = text.length)) ∧
      again .next = fresh.answers (fun t => .token? (t.map (·.2))) ∧
      again .walk = fresh.answers .positioned ∧
      tokenize text = fresh.complete ∧
      (∀ (e : LexError) (context : Option (List Char)),
        (e.report context).message = e.cause.message ∧
          (e.report context).position = e.position) ∧
      (left.perform .hasNext).1 = .ok (.flag (left.stream.unread.any fun c => !isBlank c)) := by
  intro s replies fresh again left
  have hs : s.stream.At text text := Stream.at_ofText text
  have hwalk : s.walkOver = false := rfl
  obtain ⟨stream, hfresh, -⟩ := TokenRun.ofStream_at hs
  have htokens : fresh.tokens = (Ahead.run text).tokens.map (TokenRun.locate text) :=
    congrArg TokenRun.tokens hfresh
  have hfailure : fresh.failure =
      (Ahead.run text).failure.map fun f => .lexing (TokenRun.locateFailure text f) :=
    congrArg TokenRun.failure hfresh
  refine ⟨?_, (steps_next text).answers hs hwalk htokens hfailure,
    (steps_walk text).answers hs hwalk htokens hfailure, tokenize_eq_complete text,
    fun e context => ⟨rfl, rfl⟩, perform_hasNext (.after .fresh _)⟩
  obtain ⟨delivered, rest, hsplit, hagree, hends, hrefusal⟩ := performAll_heard hs nofun drives
  refine ⟨delivered, rest, htokens.trans hsplit, hagree, fun reply hmem hend => ?_, fun e he => ?_⟩
  · obtain ⟨hrest, hnone⟩ := hends reply hmem hend
    exact ⟨hrest, by rw [hfailure, hnone, Option.map_none]⟩
  obtain ⟨hrest, hrefused⟩ := hrefusal e he
  refine ⟨hrest, ?_⟩
  rcases hrefused with ⟨f, hf, rfl⟩ | ⟨hnone, rfl, hasks⟩
  · exact Or.inl (by rw [hfailure, hf, Option.map_some])
  · refine Or.inr ⟨by rw [hfailure, hnone, Option.map_none], hasks, _, rfl, ?_, ?_⟩
    · rw [Position.ofSuffix, List.length_nil, Nat.sub_zero, List.take_length]
    · simpa using Position.offset_ofSuffix (List.nil_suffix (l := text))

/-- A numeral with two points behind two words, met by way of a walk, a question and a look ahead,
and by asking for the next token again and again. -/
theorem drives_agree_of_malformed_number :
    let text := "a b 1.2.3".toList
    let s := ofStream (Stream.ofText text)
    let drives : List Drive := [.lookAhead 4, .next, .walk, .hasNext, .next]
    let replies := (s.performAll (drives.map Drive.request)).map (·.1)
    let fresh := TokenRun.ofText text
    let e := Failure.lexing ⟨.malformedNumber "1.2.3".toList, ⟨0, 4, 4, false⟩⟩
    refusalOf replies = some e ∧
      (∃ delivered, fresh.tokens = delivered ∧
        List.Forall₂ Agrees ((repliesOf replies).filterMap Reply.delivered) delivered ∧
        fresh.failure = some e) ∧
      (s.performAll (List.replicate 3 .next)).map (·.1) =
        [.ok (.token? (some (.identifier "a"))), .ok (.token? (some (.identifier "b"))), .error e] ∧
      tokenize text = .error e := by
  intro text s drives replies fresh e
  have he : refusalOf replies = some e := by decide +kernel
  have hfresh : fresh.tokens =
      [(⟨0, 0, 0, false⟩, .identifier "a"), (⟨0, 2, 2, false⟩, .identifier "b")] := by
    decide +kernel
  have hlength : fresh.tokens.length = 2 := congrArg List.length hfresh
  obtain ⟨⟨delivered, rest, htokens, hagree, -, hrefusal⟩, hagain, -, hall, -⟩ :=
    drives_agree text drives
  obtain ⟨hrest, hfailure⟩ := hrefusal e he
  rw [hrest, List.append_nil] at htokens
  have hstopped : fresh.failure ≠ none := by decide +kernel
  have hfailed : fresh.failure = some e := hfailure.resolve_right fun h => hstopped h.1
  refine ⟨he, ⟨delivered, htokens, hagree, hfailed⟩, ?_, ?_⟩
  · rw [hlength] at hagain
    refine hagain.trans ?_
    rw [TokenRun.answers, hfailed, hfresh]
    rfl
  · rw [hall, TokenRun.complete, TokenRun.positioned, hfailed]
    rfl

end Session

end Lexis
