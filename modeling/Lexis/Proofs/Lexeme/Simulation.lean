import Lexis.Proofs.Lexeme.Ahead
import Lexis.Proofs.Source.Text
import Mathlib.Data.List.DropRight

/-! # The scans come to their outcomes

On every stream that stands in a text, each scan answers what its outcome on the text ahead says, and
leaves the stream in front of the text that the outcome leaves (`Scan.Comes`). No scan fails for
another reason, and no loop meets its bound: a round of a loop consumes at least one character, and
the bound is larger than the number of characters ahead.

The steps of a scan are chained by `Scan.Comes.bind`. -/

namespace Lexis

open CharClass

namespace Scan

variable {α β : Type} {text ahead rest : List Char}

/-- The scan, on a stream standing in `text` in front of `ahead`, comes to the outcome. -/
def Comes (m : Scan α) (text ahead : List Char) (o : Scanned α) : Prop :=
  ∀ s : Stream, s.At text ahead →
    match o with
    | .found a rest => ∃ s', m s = .ok a s' ∧ s'.At text rest
    | .failed cause place rest =>
      ∃ s', m s = .error (.lexing ⟨cause, .ofSuffix text place⟩) s' ∧ s'.At text rest

/-! ### Chaining -/

theorem Comes.pure (a : α) : (Pure.pure a : Scan α).Comes text ahead (.found a ahead) :=
  fun s h => ⟨s, rfl, h⟩

theorem Comes.bind {m : Scan α} {f : α → Scan β} {o : Scanned α} {g : α → List Char → Scanned β}
    (hm : m.Comes text ahead o)
    (hf : ∀ a rest, o = .found a rest → (f a).Comes text rest (g a rest)) :
    (m >>= f).Comes text ahead (o.bind g) := by
  intro s h
  have hs := hm s h
  cases o with
  | found a rest =>
    obtain ⟨s₁, hs₁, hat₁⟩ := hs
    have hrun : (m >>= f) s = f a s₁ := by simp [Bind.bind, EStateM.bind, hs₁]
    rw [hrun]
    exact hf a rest rfl s₁ hat₁
  | failed cause place rest =>
    obtain ⟨s₁, hs₁, hat₁⟩ := hs
    exact ⟨s₁, by simp [Bind.bind, EStateM.bind, hs₁], hat₁⟩

/-- Goes on behind a step that finds something. -/
theorem Comes.then {m : Scan α} {f : α → Scan β} {a : α} {o : Scanned β}
    (hm : m.Comes text ahead (.found a rest)) (hf : (f a).Comes text rest o) :
    (m >>= f).Comes text ahead o := by
  refine Comes.bind (g := fun _ _ => o) hm fun a' rest' h => ?_
  injection h with ha hrest
  rw [← ha, ← hrest]
  exact hf

/-- Returns a function of what a step finds. -/
theorem Comes.return {m : Scan α} {o : Scanned α} (f : α → β) (hm : m.Comes text ahead o) :
    (m >>= fun a => Pure.pure (f a)).Comes text ahead (o.map f) :=
  hm.bind fun a _ _ => Comes.pure (f a)

theorem Comes.map {m : Scan α} {o : Scanned α} (f : α → β) (hm : m.Comes text ahead o) :
    (f <$> m).Comes text ahead (o.map f) := by
  rw [map_eq_pure_bind]
  exact hm.return f

theorem comes_fail (cause : Cause) (place : List Char) :
    (fail cause (.ofSuffix text place) : Scan α).Comes text ahead (.failed cause place ahead) :=
  fun s h => ⟨s, rfl, h⟩

/-! ### Steps -/

theorem comes_position : position.Comes text ahead (.found (.ofSuffix text ahead) ahead) :=
  fun s h => ⟨s, by rw [← h.position]; rfl, h⟩

theorem comes_ofReading {r : Reading α} {a : α}
    (h : ∀ s : Stream, s.At text ahead → ∃ s', r s = .ok a s' ∧ s'.At text rest) :
    (ofReading r).Comes text ahead (.found a rest) := by
  intro s hs
  obtain ⟨s', hs', hat⟩ := h s hs
  exact ⟨s', by simp [ofReading, EStateM.adaptExcept, hs'], hat⟩

theorem comes_peek : peek.Comes text ahead (.found ahead.head? ahead) :=
  comes_ofReading fun s h => by
    obtain ⟨s', hs', hat, -⟩ := Stream.peek_at h
    exact ⟨s', hs', hat⟩

theorem comes_next : next.Comes text ahead (.found ahead.head? ahead.tail) :=
  comes_ofReading fun _ h => Stream.next_at h

theorem comes_skip (n : Nat) : (skip n).Comes text ahead (.found () (ahead.drop n)) :=
  (comes_ofReading fun _ h => Stream.takeExactly_at n h).map fun _ => ()

theorem comes_peekExactly (n : Nat) :
    (ofReading (Stream.peekExactly n)).Comes text ahead
      (.found (if n ≤ ahead.length then some (ahead.take n) else none) ahead) :=
  comes_ofReading fun s h => by
    obtain ⟨s', hs', hat, -⟩ := Stream.peekExactly_at h n
    exact ⟨s', hs', hat⟩

/-- The next two characters of a text, if there are as many. -/
def firstPair : List Char → Option (Char × Char)
  | c :: d :: _ => some (c, d)
  | _ => none

theorem comes_peekPair : peekPair.Comes text ahead (.found (firstPair ahead) ahead) := by
  refine Comes.then (comes_peekExactly 2) ?_
  match ahead with
  | [] => exact Comes.pure _
  | [c] => exact Comes.pure _
  | c :: d :: rest => exact Comes.pure _

theorem comes_bounded {loop : Nat → Scan α} {o : Scanned α}
    (h : (loop (ahead.length + 1)).Comes text ahead o) : (bounded loop).Comes text ahead o := by
  intro s hs
  have hbound : bounded loop s = loop (ahead.length + 1) s := by rw [bounded, hs.size_eq]
  rw [hbound]
  exact h s hs

/-! ### Runs -/

/-- The loop of a run ends with a look ahead, after which the stream knows whether it is empty. -/
theorem runWithin_at (p : Char → Bool) : ∀ (bound : Nat) {ahead : List Char} {s : Stream},
    ahead.length < bound → s.At text ahead →
      ∃ s', runWithin p bound s = .ok (ahead.takeWhile p) s' ∧ s'.At text (ahead.dropWhile p) ∧
        s'.isEmpty = (ahead.dropWhile p).isEmpty
  | 0, _, _, hlt, _ => by omega
  | bound + 1, ahead, s, hlt, h => by
    obtain ⟨s₁, hs₁, hat₁, hempty₁⟩ := Stream.peek_at h
    have hpeek : peek s = .ok ahead.head? s₁ := by simp [peek, ofReading, EStateM.adaptExcept, hs₁]
    cases ahead with
    | nil =>
      refine ⟨s₁, ?_, hat₁, hempty₁⟩
      simp [runWithin, Bind.bind, EStateM.bind, hpeek, Pure.pure, EStateM.pure]
    | cons c rest =>
      by_cases hc : p c = true
      · obtain ⟨s₂, hs₂, hat₂⟩ := comes_skip 1 s₁ hat₁
        obtain ⟨s₃, hs₃, hat₃, hempty₃⟩ := runWithin_at p bound (by simpa using hlt) hat₂
        simp only [List.drop_succ_cons, List.drop_zero] at hs₃ hat₃ hempty₃
        rw [List.takeWhile_cons_of_pos hc, List.dropWhile_cons_of_pos hc]
        refine ⟨s₃, ?_, hat₃, hempty₃⟩
        simp [runWithin, Bind.bind, EStateM.bind, hpeek, hc, hs₂, hs₃, Pure.pure, EStateM.pure]
      · rw [List.takeWhile_cons_of_neg hc, List.dropWhile_cons_of_neg hc]
        refine ⟨s₁, ?_, hat₁, hempty₁⟩
        simp [runWithin, Bind.bind, EStateM.bind, hpeek, hc, Pure.pure, EStateM.pure]

theorem run_at (p : Char → Bool) {s : Stream} (h : s.At text ahead) :
    ∃ s', run p s = .ok (ahead.takeWhile p) s' ∧ s'.At text (ahead.dropWhile p) ∧
      s'.isEmpty = (ahead.dropWhile p).isEmpty := by
  have hrun : run p s = runWithin p (ahead.length + 1) s := by rw [run, bounded, h.size_eq]
  rw [hrun]
  exact runWithin_at p _ (Nat.lt_succ_self _) h

theorem comes_run (p : Char → Bool) :
    (run p).Comes text ahead (.found (ahead.takeWhile p) (ahead.dropWhile p)) := by
  intro s h
  obtain ⟨s', hs', hat, -⟩ := run_at p h
  exact ⟨s', hs', hat⟩

/-! ### Words and numerals -/

theorem comes_word (c : Char) (rest : List Char) :
    (some <$> word c).Comes text (c :: rest) (Ahead.word c rest) := by
  refine Comes.map (o := .found _ _) some ?_
  exact (comes_skip 1).then ((comes_run isWordPart).then (Comes.pure _))

theorem comes_numeral : numeral.Comes text ahead (Ahead.numeral ahead) := by
  refine comes_position.then (comes_next.then ?_)
  cases ahead with
  | nil => exact Comes.pure none
  | cons c rest =>
    refine (comes_run isNumeralPart).then ?_
    simp only [Ahead.numeral, List.tail_cons]
    cases Decimal.ofNumeral? (c :: rest.takeWhile isNumeralPart) with
    | none => exact comes_fail _ _
    | some d => exact Comes.pure _

theorem comes_number (c : Char) (rest : List Char) :
    number.Comes text (c :: rest) (Ahead.number c rest) := by
  refine comes_peek.then ?_
  by_cases hc : isSign c = true
  · have hfilter : (c :: rest).head?.filter isSign = some c := by simp [hc]
    simp only [hfilter, Option.isSome_some, if_true, Ahead.number, if_pos hc]
    exact (comes_skip 1).then (comes_numeral.return _)
  · have hfilter : (c :: rest).head?.filter isSign = none := by simp [hc]
    simp only [hfilter, Option.isSome_none, Bool.false_eq_true, if_false, Ahead.number, if_neg hc]
    exact comes_numeral.return _

theorem comes_version (c : Char) (rest : List Char) :
    version.Comes text (c :: rest) (Ahead.version rest) :=
  (comes_skip 1).then (comes_numeral.return _)

/-! ### Strings and characters -/

theorem comes_quotedTextWithin : ∀ (bound : Nat) (ahead : List Char), ahead.length < bound →
    (quotedTextWithin bound).Comes text ahead
      (.found (Ahead.quoted ahead).1 (Ahead.quoted ahead).2)
  | 0, _, hlt => by omega
  | bound + 1, ahead, hlt => by
    refine comes_next.then ?_
    cases ahead with
    | nil => exact Comes.pure none
    | cons c rest =>
      by_cases hc : c = '"'
      · subst hc
        exact Comes.pure (some [])
      · have ih := comes_quotedTextWithin bound rest (by simpa using hlt)
        simp only [List.head?_cons, List.tail_cons, if_neg hc, Ahead.quoted]
        exact ih.return (Option.map (c :: ·))

theorem comes_string (c : Char) (rest : List Char) :
    string.Comes text (c :: rest) (Ahead.string rest) := by
  refine (comes_skip 1).then ?_
  have hquoted : quotedText.Comes text rest
      (.found (Ahead.quoted rest).1 (Ahead.quoted rest).2) :=
    comes_bounded (comes_quotedTextWithin _ rest (Nat.lt_succ_self _))
  exact hquoted.return (Option.map fun t => Token.string (String.ofList t))

theorem comes_interpolated (c : Char) (rest : List Char) :
    interpolated.Comes text (c :: rest) (Ahead.interpolated rest) := by
  refine (comes_skip 1).then (comes_peek.then ?_)
  simp only [List.drop_succ_cons, List.drop_zero]
  cases rest with
  | nil => exact Comes.pure none
  | cons d rest =>
    by_cases hd : d = '"'
    · subst hd
      exact comes_string _ rest
    · have hout : Ahead.interpolated (d :: rest) = .found none (d :: rest) := by
        simp [Ahead.interpolated, hd]
      rw [hout]
      simp only [List.head?_cons, Option.some.injEq, if_neg hd]
      exact Comes.pure none

theorem comes_charLiteral (c : Char) (rest : List Char) :
    charLiteral.Comes text (c :: rest) (Ahead.charLiteral rest) := by
  refine (comes_skip 1).then (comes_next.then ?_)
  match rest with
  | [] => exact Comes.pure none
  | [_] => exact comes_next.then (Comes.pure none)
  | _ :: _ :: _ =>
    refine comes_next.then ?_
    simp only [Ahead.charLiteral, List.drop_succ_cons, List.drop_zero, List.tail_cons,
      List.head?_cons, Option.some.injEq]
    exact Comes.pure _

/-! ### Comments -/

theorem comes_skip_two (c : Char) (rest : List Char) :
    (skip 2).Comes text (c :: rest) (.found () rest.tail) := by
  rw [← List.drop_one]
  exact comes_skip 2

theorem comes_lineComment (c : Char) (rest : List Char) :
    (some <$> lineComment).Comes text (c :: rest) (Ahead.lineComment rest.tail) := by
  refine Comes.map (o := .found _ _) some ?_
  exact (comes_skip_two c rest).then ((comes_run (· != '\n')).then (Comes.pure _))

/-- The loop through the text of a block comment. -/
theorem comes_commentTextWithin : ∀ (bound depth : Nat) (ahead : List Char), ahead.length < bound →
    (commentTextWithin bound depth).Comes text ahead
      (.found (Ahead.commentText depth ahead).1 (Ahead.commentText depth ahead).2)
  | 0, _, _, hlt => by omega
  | bound + 1, depth, [], _ => comes_peekPair.then (Comes.pure none)
  | bound + 1, depth, [c], _ => by
    rw [Ahead.commentText_singleton]
    exact comes_peekPair.then (Comes.pure none)
  | bound + 1, depth, c :: d :: rest, hlt => by
    have hrest : rest.length < bound := by simp at hlt; omega
    refine comes_peekPair.then ?_
    have hpair : firstPair (c :: d :: rest) = some (c, d) := rfl
    rw [hpair]
    split
    · contradiction
    · rename_i h
      cases h
      have ih := comes_commentTextWithin bound (depth + 1) rest hrest
      rw [Ahead.commentText]
      exact (comes_skip 2).then (ih.return _)
    · rename_i h
      cases h
      cases depth with
      | zero => exact (comes_skip 2).then (Comes.pure _)
      | succ depth =>
        have ih := comes_commentTextWithin bound depth rest hrest
        exact (comes_skip 2).then (ih.return _)
    · rename_i ho hc h
      cases h
      have ih := comes_commentTextWithin bound depth (d :: rest) (by simp at hlt ⊢; omega)
      rw [Ahead.commentText_cons_cons ho hc]
      exact (comes_skip 1).then (ih.return _)

theorem comes_blockComment (c : Char) (rest : List Char) :
    blockComment.Comes text (c :: rest) (Ahead.blockComment rest.tail) := by
  refine (comes_skip_two c rest).then ?_
  have htext : commentText.Comes text rest.tail
      (.found (Ahead.commentText 0 rest.tail).1 (Ahead.commentText 0 rest.tail).2) :=
    comes_bounded (comes_commentTextWithin _ 0 rest.tail (Nat.lt_succ_self _))
  exact htext.return (Option.map fun t => Token.comment (String.ofList t))

/-! ### Operators -/

theorem comes_completion (c : Char) :
    (completion c).Comes text ahead
      (match ahead.head?.bind (Operator.pair? c) with
        | some o => .found (some o) ahead.tail
        | none => .found none ahead) := by
  refine comes_peek.then ?_
  cases ahead.head?.bind (Operator.pair? c) with
  | none => exact Comes.pure none
  | some o =>
    have hskip : (skip 1).Comes text ahead (.found () ahead.tail) := by
      rw [← List.drop_one]
      exact comes_skip 1
    exact hskip.then (Comes.pure _)

theorem comes_sign (c : Char) (rest : List Char) :
    sign.Comes text (c :: rest) (Ahead.sign c rest) := by
  refine comes_position.then (comes_next.then ?_)
  simp only [List.head?_cons, List.tail_cons, Ahead.sign]
  cases Operator.single? c with
  | none => exact comes_fail _ _
  | some short =>
    have hlong : (completion c).Comes text rest _ := comes_completion c
    cases hp : rest.head?.bind (Operator.pair? c) with
    | some long =>
      obtain ⟨d, -, hd⟩ := Option.bind_eq_some_iff.1 hp
      rw [hp] at hlong
      simp only [Operator.opensPair_of_pair? hd, if_true]
      exact hlong.then (Comes.pure _)
    | none =>
      rw [hp] at hlong
      by_cases hopens : Operator.opensPair c = true
      · simp only [hopens, if_true]
        exact hlong.then (Comes.pure _)
      · simp only [hopens, Bool.false_eq_true, if_false]
        exact Comes.pure _

/-! ### Lexemes and tokens -/

/-- The second character is looked at only where the first leaves the form open, which is where it
matters. -/
theorem ofChars_of_not_needsSecond {c : Char} (h : Form.needsSecond c = false) (o : Option Char) :
    Form.ofChars c none = Form.ofChars c o := by
  simp only [Form.needsSecond, Bool.or_eq_false_iff, beq_eq_false_iff_ne] at h
  obtain ⟨⟨hv, hs⟩, hslash⟩ := h
  simp [Form.ofChars, hv, hs, hslash]

theorem comes_form (c : Char) (rest : List Char) :
    (form c).Comes text (c :: rest) (.found (Form.ofChars c rest.head?) (c :: rest)) := by
  by_cases hn : Form.needsSecond c = true
  · have hsecond : (firstPair (c :: rest)).map (·.2) = rest.head? := by
      cases rest <;> rfl
    simp only [form, hn, if_true]
    refine comes_peekPair.then ?_
    rw [hsecond]
    exact Comes.pure _
  · rw [Bool.not_eq_true] at hn
    simp only [form, hn, Bool.false_eq_true, if_false]
    rw [ofChars_of_not_needsSecond hn]
    exact Comes.pure _

theorem comes_lexemeOf (c : Char) (rest : List Char) :
    ∀ f : Form, (lexemeOf c f).Comes text (c :: rest) (Ahead.lexemeOf c rest f)
  | .version => comes_version c rest
  | .word => comes_word c rest
  | .string => comes_string c rest
  | .interpolated => comes_interpolated c rest
  | .charLiteral => comes_charLiteral c rest
  | .number => comes_number c rest
  | .blockComment => comes_blockComment c rest
  | .lineComment => comes_lineComment c rest
  | .sign => comes_sign c rest

theorem comes_lexeme : lexeme.Comes text ahead (Ahead.lexeme ahead) := by
  refine comes_peek.then ?_
  cases ahead with
  | nil => exact Comes.pure none
  | cons c rest => exact (comes_form c rest).then (comes_lexemeOf c rest _)

theorem comes_skipBlanks : skipBlanks.Comes text ahead (.found () (Ahead.behindBlanks ahead)) :=
  (comes_run isBlank).map fun _ => ()

/-- **The next token is a function of the text ahead.** -/
theorem comes_token : token.Comes text ahead (Ahead.token ahead) := by
  refine comes_skipBlanks.then (comes_position.then (comes_lexeme.bind fun t rest _ => ?_))
  cases t with
  | none => exact comes_fail _ _
  | some t => exact Comes.pure t

/-- Behind the blanks the stream has met the end if nothing follows. -/
theorem comes_hasNext :
    hasNext.Comes text ahead
      (.found (!(Ahead.behindBlanks ahead).isEmpty) (Ahead.behindBlanks ahead)) := by
  intro s h
  obtain ⟨s', hs', hat, hempty⟩ := run_at isBlank h
  have hskip : skipBlanks s = .ok () s' := by
    simp [skipBlanks, Functor.discard, Functor.mapConst, EStateM.map, hs']
  refine ⟨s', ?_, hat⟩
  simp only [hasNext, Bind.bind, EStateM.bind, hskip, get, getThe, MonadStateOf.get,
    Stream.get_apply, Pure.pure, EStateM.pure, hempty]
  rfl

/-- Behind the blanks, the next token is the one that begins there. -/
theorem comes_whole {c : Char} {rest : List Char} (hb : Ahead.behindBlanks ahead = c :: rest) :
    token.Comes text (c :: rest) (Ahead.whole (c :: rest)) := by
  have hblanks : Ahead.behindBlanks (Ahead.behindBlanks ahead) = Ahead.behindBlanks ahead :=
    List.dropWhile_idempotent isBlank ahead
  have h : token.Comes text (c :: rest) (Ahead.token (c :: rest)) := comes_token
  rwa [Ahead.token, ← hb, hblanks, hb] at h

/-- **A step of a run is a function of the text ahead.** The start of the token is the place of the
text that begins with it. -/
theorem comes_positioned? :
    positioned?.Comes text ahead
      ((Ahead.positioned? ahead).map
        (Option.map fun t => (Position.ofSuffix text t.1, t.2))) := by
  refine comes_hasNext.then ?_
  rw [Ahead.positioned?]
  cases hb : Ahead.behindBlanks ahead with
  | nil => exact Comes.pure none
  | cons c rest =>
    simp only [List.isEmpty_cons, Bool.not_false, if_true]
    refine comes_position.then ?_
    rw [Scanned.map_map]
    exact (comes_whole hb).return _

theorem comes_token? :
    token?.Comes text ahead ((Ahead.positioned? ahead).map (Option.map (·.2))) := by
  refine comes_hasNext.then ?_
  rw [Ahead.positioned?]
  cases hb : Ahead.behindBlanks ahead with
  | nil => exact Comes.pure none
  | cons c rest =>
    simp only [List.isEmpty_cons, Bool.not_false, if_true]
    rw [Scanned.map_map]
    exact (comes_whole hb).return _

end Scan

end Lexis
