import Lexis.Proofs.Drivers
import Lexis.Proofs.Text.Lines

/-! # Reports without the text

A report that does not know the text reads its location off the position. In a text without CR LF
pairs both ways find the same line. They agree on the column as well before the first line end, and
right behind any line end; but everywhere else the position has counted the first character of the
line as column zero, and the report names the column before the right one
(`Report.location_without_text`).

Both ways are folds along the characters that have been passed: the walk along the text
(`Location.walk_eq_advance`) and the position. One step of the two is compared by `Tracks.step`. -/

namespace Lexis

open CharClass

namespace Location

/-! ### The walk as a fold -/

/-- The location behind the character `c`. -/
def step (here : Location) (c : Char) : Location :=
  if isLineEnd c then ⟨here.line + 1, 1⟩ else ⟨here.line, here.column + 1⟩

/-- The location behind every character of `t`. -/
def advance (here : Location) (t : List Char) : Location := t.foldl step here

@[simp] theorem advance_nil (here : Location) : here.advance [] = here := rfl

@[simp] theorem advance_cons (here : Location) (c : Char) (t : List Char) :
    here.advance (c :: t) = (here.step c).advance t := rfl

/-- **Without CR LF pairs a walk passes one character after the other.** -/
theorem walk_eq_advance {t : List Char} (here : Location) (n : Nat) (h : ¬['\r', '\n'] <:+: t) :
    walk here t n = here.advance (t.take n) := by
  have hrest : ∀ {d : Char} {rest : List Char}, ¬['\r', '\n'] <:+: d :: rest →
      ¬['\r', '\n'] <:+: rest :=
    fun h hpair => h (hpair.trans (List.suffix_cons _ _).isInfix)
  fun_induction walk here t n with
  | case1 t here => simp
  | case2 n here hn => simp
  | case3 here rest n ih => exact absurd ⟨[], rest, rfl⟩ h
  | case4 here d rest n _ hd ih =>
    rw [ih (hrest h), List.take_succ_cons, advance_cons, step, if_pos hd]
  | case5 here d rest n _ hd ih =>
    rw [ih (hrest h), List.take_succ_cons, advance_cons, step, if_neg hd]

end Location

/-! ### Positions beside locations -/

theorem Position.step_of_newlineStarted {q : Position} (h : q.newlineStarted = true) (c : Char) :
    q.step c = ⟨q.row + 1, 0, q.offset + 1, isLineEnd c⟩ := by
  rw [step_eq_pass, pass, if_pos h]

theorem Position.step_of_not_newlineStarted {q : Position} (h : q.newlineStarted = false)
    (c : Char) : q.step c = ⟨q.row, q.column + 1, q.offset + 1, isLineEnd c⟩ := by
  rw [step_eq_pass, pass, if_neg (Bool.eq_false_iff.1 h)]

/-- The location `here` belongs to the position `q` behind a text; `broken` says whether the text has a
line end. -/
structure Tracks (q : Position) (here : Location) (broken : Bool) : Prop where
  line : here.line = q.row + 1 + q.newlineStarted.toInt
  column : here.column = if q.newlineStarted then 1 else q.column + 1 + broken.toInt
  flag : q.newlineStarted = true → broken = true

namespace Tracks

variable {q : Position} {here : Location} {broken : Bool}

theorem start : Tracks Position.start ⟨1, 1⟩ false := ⟨rfl, rfl, nofun⟩

/-- **One character.** The row is opened one character later than the line. The character that opens
it stands in column zero, so from then on the column is one behind. -/
theorem step (h : Tracks q here broken) (c : Char) :
    Tracks (q.step c) (here.step c) (broken || isLineEnd c) := by
  obtain ⟨hline, hcolumn, hflag⟩ := h
  have hcases : isLineEnd c = true ∨ isLineEnd c = false := by cases isLineEnd c <;> simp
  cases hq : q.newlineStarted with
  | true =>
    rw [hq] at hline hcolumn
    rw [Position.step_of_newlineStarted hq, hflag hq]
    rcases hcases with hc | hc
    · exact ⟨by simp [Location.step, hc, hline], by simp [Location.step, hc], fun _ => rfl⟩
    · exact ⟨by simp [Location.step, hc, hline], by simp [Location.step, hc, hcolumn], fun _ => rfl⟩
  | false =>
    rw [hq] at hline hcolumn
    rw [Position.step_of_not_newlineStarted hq]
    rcases hcases with hc | hc
    · exact ⟨by simp [Location.step, hc, hline], by simp [Location.step, hc], by simp [hc]⟩
    · refine ⟨by simp [Location.step, hc, hline], ?_, by simp [hc]⟩
      simp only [Location.step, hc, hcolumn, Bool.false_eq_true, if_false, Bool.or_false]
      omega

theorem advance (h : Tracks q here broken) (t : List Char) :
    Tracks (q.advance t) (here.advance t) (broken || t.any isLineEnd) := by
  induction t generalizing q here broken with
  | nil => simpa using h
  | cons c t ih =>
    have hnext := ih (h.step c)
    rwa [Bool.or_assoc, ← List.any_cons] at hnext

end Tracks

/-- A position remembers whether the last character ended a line. -/
theorem Position.newlineStarted_advance (p : List Char) :
    (start.advance p).newlineStarted = p.getLast?.any isLineEnd := by
  rcases List.eq_nil_or_concat p with rfl | ⟨front, c, rfl⟩
  · rfl
  · simp [advance_append]

/-! ### Errors of a session -/

namespace Session

variable {text ahead : List Char} {s : Session}

theorem position_ofSuffix (text place : List Char) :
    ∃ p, p <+: text ∧ Position.ofSuffix text place = Position.start.advance p :=
  ⟨_, List.take_prefix _ text, rfl⟩

/-- A request that drives the session fails behind a part of the text. -/
theorem exists_prefix_of_drive (hs : s.stream.At text ahead) (drive : Drive) {e : LexError}
    (he : (s.perform drive.request).1 = .error (.lexing e)) :
    ∃ p, p <+: text ∧ e.position = Position.start.advance p := by
  obtain ⟨rest, -, hheard⟩ := perform_heard hs drive
  rw [he] at hheard
  cases hheard with
  | failed _ _ => exact position_ofSuffix text _
  | nothing _ => exact position_ofSuffix text _

/-- **Every lexical error is placed behind a part of the text**, whatever was requested. -/
theorem exists_prefix_of_perform (hs : s.stream.At text ahead) {request : Request} {e : LexError}
    (he : (s.perform request).1 = .error (.lexing e)) :
    ∃ p, p <+: text ∧ e.position = Position.start.advance p := by
  cases request with
  | hasNext => exact exists_prefix_of_drive hs .hasNext he
  | token => exact exists_prefix_of_drive hs .token he
  | next => exact exists_prefix_of_drive hs .next he
  | walk => exact exists_prefix_of_drive hs .walk he
  | freshWalk => exact exists_prefix_of_drive hs .freshWalk he
  | lookAhead n => exact exists_prefix_of_drive hs (.lookAhead n) he
  | read n =>
    -- a call may only fail for the source
    rw [show s.perform (.read n) = s.perform (Call.read n).request from rfl, perform_call] at he
    cases hr : (Call.read n).reading s.stream with
    | ok o s' => rw [hr] at he; cases he
    | error f s' => rw [hr] at he; cases he
  | all =>
    have hanswer : (s.perform .all).1 = (Ahead.tokens ahead).reply text .tokens :=
      (answer_at hs Scan.comes_tokens .tokens).1
    rw [hanswer] at he
    cases ht : Ahead.tokens ahead with
    | found ts rest =>
      rw [ht] at he
      cases he
    | failed cause place rest =>
      rw [ht] at he
      cases he
      exact position_ofSuffix text place

end Session

/-! ### Reports -/

namespace Report

/-- The columns by which a report without the text falls short behind `p`: one if `p` has a line end,
but does not stop with one. -/
def lag (p : List Char) : Int := (p.any isLineEnd && !p.getLast?.any isLineEnd).toInt

/-- The location that is read off a position. -/
theorem locationOfPosition_advance (p : List Char) :
    locationOfPosition (Position.start.advance p) =
      ⟨((⟨1, 1⟩ : Location).advance p).line, ((⟨1, 1⟩ : Location).advance p).column - lag p⟩ := by
  obtain ⟨hline, hcolumn, hflag⟩ := Tracks.start.advance p
  rw [Bool.false_or] at hcolumn hflag
  rw [locationOfPosition, lag, ← Position.newlineStarted_advance, hline, hcolumn]
  cases hq : (Position.start.advance p).newlineStarted with
  | true => simp; omega
  | false => simp

/-- The location that is found in the text. -/
theorem ofOffset_advance {text p : List Char} (h : ¬['\r', '\n'] <:+: text) (hp : p <+: text) :
    Location.ofOffset text (Position.start.advance p).offset = (⟨1, 1⟩ : Location).advance p := by
  have hoffset : (Position.start.advance p).offset = p.length := by
    simp [Position.offset_advance, Position.start]
  rw [hoffset, Location.ofOffset, if_neg (by omega), Int.toNat_natCast,
    Location.walk_eq_advance _ _ h, ← List.prefix_iff_eq_take.1 hp]

/-- A report behind the part `p` of the text names the same line without the text, and a column that
is `lag p` too small. -/
theorem location_eq_of_prefix {text p : List Char} (h : ¬['\r', '\n'] <:+: text) (hp : p <+: text)
    (message : String) :
    let known : Report := ⟨message, Position.start.advance p, some text⟩
    let unknown : Report := ⟨message, Position.start.advance p, none⟩
    unknown.location = ⟨known.location.line, known.location.column - lag p⟩ := by
  intro known unknown
  rw [show known.location = _ from ofOffset_advance h hp]
  exact locationOfPosition_advance p

/-- **What a report misses without the text.** Let the text have no CR LF pair. Behind every part `p`
of it, a report names the same line without the text as with it. It names the same column if `p` has
no line end or stops with one, and else the column before. This holds for every lexical error that a
request to a session over the text may bring. -/
theorem location_without_text {text : List Char} (h : ¬['\r', '\n'] <:+: text) :
    (∀ (message : String) (p : List Char), p <+: text →
      let known : Report := ⟨message, Position.start.advance p, some text⟩
      let unknown : Report := ⟨message, Position.start.advance p, none⟩
      unknown.location = ⟨known.location.line, known.location.column - lag p⟩) ∧
    ∀ s, Session.Reachable text s → ∀ (request : Request) (e : LexError),
      (s.perform request).1 = .error (.lexing e) →
      ∃ p, p <+: text ∧ e.position = Position.start.advance p ∧
        (e.report none).location =
          ⟨(e.report (some text)).location.line,
            (e.report (some text)).location.column - lag p⟩ := by
  refine ⟨fun message p hp => location_eq_of_prefix h hp message, fun s hs request e he => ?_⟩
  obtain ⟨ahead, hat⟩ := hs.exists_at
  obtain ⟨p, hp, hposition⟩ := Session.exists_prefix_of_perform hat he
  refine ⟨p, hp, hposition, ?_⟩
  rw [LexError.report, LexError.report, hposition]
  exact location_eq_of_prefix h hp _

/-- On the second line behind a word, the column is one too small. -/
theorem location_without_text_behind_word :
    let text := "\nab #".toList
    let known : Report := ⟨"", Position.start.advance text.dropLast, some text⟩
    let unknown : Report := ⟨"", Position.start.advance text.dropLast, none⟩
    ¬['\r', '\n'] <:+: text ∧ lag text.dropLast = 1 ∧ known.location = ⟨2, 4⟩ ∧
      unknown.location = ⟨known.location.line, known.location.column - 1⟩ := by
  intro text known unknown
  have h : ¬['\r', '\n'] <:+: text := by decide
  exact ⟨h, by decide, by decide,
    (location_without_text h).1 "" text.dropLast (List.dropLast_prefix text)⟩

/-- A report without the text may name another column: behind a blank on the second line, the
unknown character stands in the second column and not in the first. -/
theorem location_without_text_differs :
    let text := "\n #".toList
    let s := Session.ofStream (Stream.ofText text)
    let e : LexError := ⟨.unknownOperator '#', Position.start.advance "\n ".toList⟩
    ¬['\r', '\n'] <:+: text ∧ (s.perform .token).1 = .error (.lexing e) ∧
      (e.report (some text)).location = ⟨2, 2⟩ ∧ (e.report none).location = ⟨2, 1⟩ := by
  decide +kernel

end Report

end Lexis
