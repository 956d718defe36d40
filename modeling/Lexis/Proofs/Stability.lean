import Lexis.Proofs.Pieces
import Lexis.Proofs.Session
import Lexis.Proofs.Source.Operations

/-! # The tokens depend on one character behind them

A walk that has delivered `n` tokens has passed `n` pieces of the text, each with a spelling that does
not go on with what follows it (`Session.exists_pieces_of_walks`). Of what follows, such a spelling
sees no more than the first character. So the pieces stand just as well in front of any other
text with the same first character (`Piece.Stand.congr`), and a walk over the other text delivers the
same tokens at the same places (`Session.walkStep_of_stand`).

Hence a token that a walk delivers is fixed by the text up to its end and one character behind it
(`Session.walkStep_eq_of_take_eq`). -/

namespace Lexis

open CharClass Run

/-! ### Pieces in front of a text -/

namespace Piece

/-- The pieces stand in front of `rest`: no spelling goes on with what follows it. -/
def Stand : List Piece → List Char → Prop
  | [], _ => True
  | p :: ps, rest => EndsBefore (goesOn p.lexeme) (text ps ++ rest) ∧ Stand ps rest

theorem text_append (ps qs : List Piece) : text (ps ++ qs) = text ps ++ text qs :=
  List.flatMap_append

/-- **Only the first character of what follows matters.** -/
theorem Stand.congr {rest rest' : List Char} (h : rest.head? = rest'.head?) :
    ∀ {ps : List Piece}, Stand ps rest → Stand ps rest'
  | [], _ => trivial
  | p :: ps, ⟨hends, hstand⟩ => by
    refine ⟨fun c hc => hends c ?_, hstand.congr h⟩
    rwa [List.head?_append, h, ← List.head?_append]

/-- The first of the pieces is a step of a run. -/
theorem Stand.positioned?_eq {p : Piece} {ps : List Piece} {rest : List Char}
    (h : Stand (p :: ps) rest) :
    Ahead.positioned? (text (p :: ps) ++ rest) =
      .found (some (p.lexeme ++ (text ps ++ rest), p.token)) (text ps ++ rest) := by
  refine Ahead.positioned?_eq_found_some_iff.2 ⟨p.gap, ?_, p.isGap, p.lexeme, rfl, p.spells, h.1⟩
  rw [text_cons, List.append_assoc, List.append_assoc]

theorem Stand.of_append {qs : List Piece} {rest : List Char} :
    ∀ {ps : List Piece}, Stand (ps ++ qs) rest → Stand ps (text qs ++ rest) ∧ Stand qs rest
  | [], h => ⟨trivial, h⟩
  | p :: ps, ⟨hends, h⟩ => by
    obtain ⟨hps, hqs⟩ := of_append h
    refine ⟨⟨?_, hps⟩, hqs⟩
    rwa [← List.append_assoc, ← text_append]

end Piece

/-! ### Walks -/

namespace Session

variable {text ahead : List Char} {s : Session}

/-- The session after `n` steps of its walk. -/
def walked (s : Session) (n : Nat) : Session := s.after (List.replicate n .walk)

theorem walked_succ (s : Session) (n : Nat) : s.walked (n + 1) = s.stepWalk.2.walked n := rfl

theorem walked_succ' (s : Session) (n : Nat) : s.walked (n + 1) = (s.walked n).stepWalk.2 := by
  rw [walked, walked, after, List.replicate_succ', List.foldl_append]
  rfl

theorem walked_of_walkOver (h : s.walkOver = true) : ∀ n, s.walked n = s
  | 0 => rfl
  | n + 1 => by rw [walked_succ, stepWalk_of_walkOver h, walked_of_walkOver h n]

/-- A walk that delivers a token is not over. -/
theorem walkOver_of_delivers {t : Position × Token}
    (h : s.stepWalk.1 = .ok (.positioned (some t))) : s.stepWalk.2.walkOver = false := by
  unfold stepWalk at h ⊢
  split_ifs at h ⊢
  · cases h
  · split at h
    · rfl
    · cases h
    · cases h

/-- A step of a run is a step of the walk. -/
theorem stepWalk_of_found {p : List Char × Token} {rest : List Char}
    (hs : s.stream.At text ahead) (hwalk : s.walkOver = false)
    (hp : Ahead.positioned? ahead = .found (some p) rest) :
    s.stepWalk.1 = .ok (.positioned (some (TokenRun.locate text p))) ∧
      s.stepWalk.2.stream.At text rest ∧ s.stepWalk.2.walkOver = false := by
  obtain ⟨hreply, hat, hgoesOn⟩ := stepWalk_answer hs hwalk
  rw [hp] at hreply hat hgoesOn
  exact ⟨hreply, hat, hgoesOn.2 ⟨p, rest, rfl⟩⟩

/-- Where a run has no step, the walk is over. -/
theorem walkOver_of_not_found (hs : s.stream.At text ahead)
    (hp : ∀ p rest, Ahead.positioned? ahead ≠ .found (some p) rest) :
    s.stepWalk.2.walkOver = true := by
  cases hwalk : s.walkOver with
  | true =>
    rw [stepWalk_of_walkOver hwalk]
    exact hwalk
  | false =>
    obtain ⟨-, -, hgoesOn⟩ := stepWalk_answer hs hwalk
    rw [← Bool.not_eq_false, hgoesOn]
    rintro ⟨p, rest, hfound⟩
    exact hp p rest hfound

/-- **A walk that is not over has passed pieces of the text**, one with each step. -/
theorem exists_pieces_of_walks : ∀ (n : Nat) {s : Session} {ahead : List Char},
    s.stream.At text ahead → (s.walked n).walkOver = false →
      ∃ ps rest, ps.length = n ∧ ahead = Piece.text ps ++ rest ∧ Piece.Stand ps rest
  | 0, _, ahead, _, _ => ⟨[], ahead, rfl, rfl, trivial⟩
  | n + 1, s, ahead, hs, hwalk => by
    rw [walked_succ] at hwalk
    have hnot : s.walkOver = false := by
      rw [← Bool.not_eq_true]
      intro hover
      rw [stepWalk_of_walkOver hover, walked_of_walkOver hover, hover] at hwalk
      cases hwalk
    by_cases hfound : ∃ p rest, Ahead.positioned? ahead = .found (some p) rest
    · obtain ⟨p, rest, hp⟩ := hfound
      obtain ⟨-, hat, -⟩ := stepWalk_of_found hs hnot hp
      obtain ⟨ps, rest, hlength, rfl, hstand⟩ := exists_pieces_of_walks n hat hwalk
      obtain ⟨gap, rfl, hgap, l, hplace, hl, hends⟩ := Ahead.positioned?_eq_found_some_iff.1 hp
      refine ⟨⟨gap, l, p.2, hgap, hl⟩ :: ps, rest, by simp [hlength], ?_, hends, hstand⟩
      rw [Piece.text_cons, hplace, List.append_assoc, List.append_assoc]
    · have hover := walkOver_of_not_found hs fun p rest hp => hfound ⟨p, rest, hp⟩
      rw [walked_of_walkOver hover, hover] at hwalk
      cases hwalk

/-- A walk passes the pieces that it stands in front of. -/
theorem walked_of_stand : ∀ (ps : List Piece) {rest : List Char} {s : Session},
    Piece.Stand ps rest → s.stream.At text (Piece.text ps ++ rest) → s.walkOver = false →
      (s.walked ps.length).stream.At text rest ∧ (s.walked ps.length).walkOver = false
  | [], _, _, _, hs, hwalk => ⟨hs, hwalk⟩
  | _ :: ps, _, _, hstand, hs, hwalk => by
    obtain ⟨-, hat, hnot⟩ := stepWalk_of_found hs hwalk hstand.positioned?_eq
    exact walked_of_stand ps hstand.2 hat hnot

/-- The step `i` of a fresh walk over a text, counted from zero: the answer, and the session that it
leaves. -/
def walkStep (text : List Char) (i : Nat) : Except Failure Reply × Session :=
  ((ofStream (Stream.ofText text)).walked i).perform .walk

/-- **A walk over pieces delivers the token of the last**, with the place of its spelling, and stops
behind it. Neither place depends on what follows. -/
theorem walkStep_of_stand {ps : List Piece} {p : Piece} {rest : List Char}
    (hstand : Piece.Stand (ps ++ [p]) rest) :
    (walkStep (Piece.text (ps ++ [p]) ++ rest) ps.length).1 =
        .ok (.positioned (some (Position.start.advance (Piece.text ps ++ p.gap), p.token))) ∧
      (walkStep (Piece.text (ps ++ [p]) ++ rest) ps.length).2.stream.position =
        Position.start.advance (Piece.text (ps ++ [p])) := by
  obtain ⟨hps, hp⟩ := hstand.of_append
  have hfresh : (Stream.ofText (Piece.text (ps ++ [p]) ++ rest)).At
      (Piece.text (ps ++ [p]) ++ rest) (Piece.text ps ++ (Piece.text [p] ++ rest)) := by
    rw [← List.append_assoc, ← Piece.text_append]
    exact Stream.at_ofText _
  obtain ⟨hat, hnot⟩ := walked_of_stand (s := ofStream _) ps hps hfresh rfl
  obtain ⟨hreply, hbehind, -⟩ := stepWalk_of_found hat hnot hp.positioned?_eq
  have hplace : Piece.text (ps ++ [p]) ++ rest =
      (Piece.text ps ++ p.gap) ++ (p.lexeme ++ (Piece.text [] ++ rest)) := by
    rw [Piece.text_append, Piece.text_cons, List.append_assoc, List.append_assoc, List.append_assoc,
      List.append_assoc]
  refine ⟨hreply.trans ?_, hbehind.position.trans (Position.ofSuffix_append ..)⟩
  rw [TokenRun.locate, hplace, Position.ofSuffix_append]

/-- What a walk delivers in its step `i` is the last of `i + 1` pieces. -/
theorem exists_pieces_of_walkStep {i : Nat} {t : Position × Token}
    (h : (walkStep text i).1 = .ok (.positioned (some t))) :
    ∃ ps p rest, ps.length = i ∧ text = Piece.text (ps ++ [p]) ++ rest ∧
      Piece.Stand (ps ++ [p]) rest := by
  have hnot : ((ofStream (Stream.ofText text)).walked (i + 1)).walkOver = false := by
    rw [walked_succ']
    exact walkOver_of_delivers h
  obtain ⟨ps, rest, hlength, htext, hstand⟩ :=
    exists_pieces_of_walks (i + 1) (Stream.at_ofText text) hnot
  obtain rfl | ⟨ps, p, rfl⟩ := List.eq_nil_or_concat' ps
  · cases hlength
  · rw [List.length_append, List.length_singleton, Nat.add_right_cancel_iff] at hlength
    exact ⟨ps, p, rest, hlength, htext, hstand⟩

/-! ### Two texts with a common front -/

/-- A list that agrees with another on more than its front has the same front, and the same element
behind it. -/
theorem exists_append_of_take_eq {α : Type} {front rest l : List α} {m : Nat}
    (h : (front ++ rest).take m = l.take m) (hm : front.length < m) :
    ∃ rest', l = front ++ rest' ∧ rest.head? = rest'.head? := by
  refine ⟨l.drop front.length, ?_, ?_⟩
  · have hfront : front = l.take front.length := by
      have hle : min front.length m = front.length := by omega
      have htake := congrArg (List.take front.length) h
      rwa [List.take_take, List.take_take, hle, List.take_left] at htake
    conv_lhs => rw [← List.take_append_drop front.length l, ← hfront]
  · have hnext : (front ++ rest)[front.length]? = l[front.length]? := by
      simpa only [List.getElem?_take, hm, if_true] using congrArg (·[front.length]?) h
    rw [List.getElem?_append_right le_rfl, Nat.sub_self] at hnext
    rw [List.head?_eq_getElem?, List.head?_drop, hnext]

/-- **A token depends on one character behind it.** Let two texts agree on their first `m` characters,
and let the walk over the first text deliver a token in its step `i`, and stop behind it at an offset
less than `m`. Then the walk over the second text delivers in its step `i` the same token with the
same start, and stops at the same place. -/
theorem walkStep_eq_of_take_eq {text text' : List Char} {m i : Nat} {t : Position × Token}
    (h : text.take m = text'.take m) (hdelivers : (walkStep text i).1 = .ok (.positioned (some t)))
    (hend : (walkStep text i).2.stream.position.offset < m) :
    (walkStep text' i).1 = .ok (.positioned (some t)) ∧
      (walkStep text' i).2.stream.position = (walkStep text i).2.stream.position := by
  obtain ⟨ps, p, rest, rfl, rfl, hstand⟩ := exists_pieces_of_walkStep hdelivers
  obtain ⟨hreply, hposition⟩ := walkStep_of_stand hstand
  have hm : (Piece.text (ps ++ [p])).length < m := by
    rw [hposition, Position.offset_advance] at hend
    have hzero : Position.start.offset = 0 := rfl
    omega
  obtain ⟨rest', rfl, hhead⟩ := exists_append_of_take_eq h hm
  obtain ⟨hreply', hposition'⟩ := walkStep_of_stand (hstand.congr hhead)
  exact ⟨hreply'.trans (hreply.symm.trans hdelivers), hposition'.trans hposition.symm⟩

/-- The operator behind a version is fixed by the letter behind it, but the word that this letter opens
is not. -/
theorem walkStep_eq_of_take_eq_behind_version :
    let text := "v1.0<b".toList
    let text' := "v1.0<b2".toList
    let t : Position × Token := (⟨0, 4, 4, false⟩, .operator .lessThan)
    text.take 6 = text'.take 6 ∧ (walkStep text 1).1 = .ok (.positioned (some t)) ∧
      (walkStep text 1).2.stream.position.offset < (6 : Nat) ∧
      (walkStep text' 1).1 = .ok (.positioned (some t)) ∧
      (walkStep text' 1).2.stream.position = (walkStep text 1).2.stream.position ∧
      (walkStep text' 2).1 ≠ (walkStep text 2).1 := by
  intro text text' t
  have htake : text.take 6 = text'.take 6 := by decide
  have hdelivers : (walkStep text 1).1 = .ok (.positioned (some t)) := by decide +kernel
  have hend : (walkStep text 1).2.stream.position.offset < (6 : Nat) := by decide +kernel
  obtain ⟨hreply, hposition⟩ := walkStep_eq_of_take_eq htake hdelivers hend
  exact ⟨htake, hdelivers, hend, hreply, hposition, by decide +kernel⟩

end Session

end Lexis
