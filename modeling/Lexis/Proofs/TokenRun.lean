import Lexis.Proofs.Lexeme.Simulation
import Lexis.Proofs.Lexeme.Spelling
import Lexis.TokenRun

/-! # Runs over a text

A step of a run over a text skips blanks and finds a spelling that does not go on with what follows
(`Ahead.positioned?_eq_found_some_iff`). So a run is a recursion on the text ahead (`Ahead.run`):
each token shortens it. The run of a stream over the text finds the same tokens, each at the place
of the text that begins with it, and stops for the same cause (`TokenRun.positioned_ofText`). -/

namespace Lexis

open CharClass Run

/-- A run of blanks. -/
def IsGap (w : List Char) : Prop := ∀ c ∈ w, isBlank c = true

theorem isGap_nil : IsGap [] := by
  intro c hc
  cases hc

namespace Ahead

/-! ### One step -/

theorem whole_eq_found_iff {t rest : List Char} {token : Token} :
    whole t = .found token rest ↔ StandsBefore t token rest := by
  rw [← lexeme_eq_found_some_iff, whole]
  cases lexeme t with
  | found a rest' =>
    cases a with
    | none => simp
    | some a => simp
  | failed cause place rest' => simp

theorem behindBlanks_eq_iff {t place : List Char} :
    behindBlanks t = place ↔ ∃ gap, t = gap ++ place ∧ IsGap gap ∧ EndsBefore isBlank place := by
  constructor
  · intro h
    exact ⟨t.takeWhile isBlank, takeWhile_dropWhile_iff.1 ⟨rfl, h⟩⟩
  · rintro ⟨gap, h⟩
    exact (takeWhile_dropWhile_iff.2 h).2

theorem positioned?_eq_found_some_iff {t place rest : List Char} {token : Token} :
    positioned? t = .found (some (place, token)) rest ↔
      ∃ gap, t = gap ++ place ∧ IsGap gap ∧ StandsBefore place token rest := by
  constructor
  · intro h
    rw [positioned?] at h
    cases hb : behindBlanks t with
    | nil => rw [hb] at h; cases h
    | cons c w =>
      rw [hb] at h
      obtain ⟨a, ha, heq⟩ := Scanned.map_eq_found_iff.1 h
      injection heq with heq
      injection heq with hplace htoken
      obtain ⟨gap, hgap, hblank, -⟩ := behindBlanks_eq_iff.1 hb
      rw [← hplace, ← htoken]
      exact ⟨gap, hgap, hblank, whole_eq_found_iff.1 ha⟩
  · rintro ⟨gap, rfl, hgap, hstands⟩
    have hb : behindBlanks (gap ++ place) = place :=
      behindBlanks_eq_iff.2 ⟨gap, rfl, hgap, hstands.endsBefore_isBlank⟩
    rw [positioned?, hb]
    obtain ⟨l, rfl, hl, -⟩ := id hstands
    obtain ⟨c, w, rfl⟩ := List.exists_cons_of_ne_nil hl.ne_nil
    rw [List.cons_append] at hstands ⊢
    simp only [whole_eq_found_iff.2 hstands, Scanned.map_found]

theorem length_lt_of_positioned? {t rest : List Char} {p : List Char × Token}
    (h : positioned? t = .found (some p) rest) : rest.length < t.length := by
  obtain ⟨gap, rfl, -, l, hplace, hl, -⟩ := positioned?_eq_found_some_iff.1 h
  have hpos := List.length_pos_of_ne_nil hl.ne_nil
  rw [hplace, List.length_append, List.length_append]
  omega

theorem positioned?_eq_found_none_iff {t rest : List Char} :
    positioned? t = .found none rest ↔ IsGap t ∧ rest = [] := by
  rw [positioned?]
  cases hb : behindBlanks t with
  | nil =>
    obtain ⟨gap, ht, hgap, -⟩ := behindBlanks_eq_iff.1 hb
    rw [List.append_nil] at ht
    subst ht
    simp [hgap, eq_comm]
  | cons c w =>
    have hnot : ¬IsGap t := by
      intro hgap
      rw [behindBlanks, List.dropWhile_eq_nil_iff.2 hgap] at hb
      cases hb
    simp only [hnot, false_and, iff_false]
    cases whole (c :: w) <;> simp

/-! ### The run -/

/-- The outcome of a run over a text: the tokens, each with the text that begins with it, the cause
and the place of the failure that ended the run, and the text that is left. -/
structure Run where
  tokens : List (List Char × Token)
  failure : Option (Cause × List Char)
  rest : List Char

/-- The run over a text. -/
def run (t : List Char) : Run :=
  match _h : positioned? t with
  | .found none rest => ⟨[], none, rest⟩
  | .found (some p) rest =>
    let later := run rest
    { later with tokens := p :: later.tokens }
  | .failed cause place rest => ⟨[], some (cause, place), rest⟩
termination_by t.length
decreasing_by exact length_lt_of_positioned? _h

theorem run_of_gap {t : List Char} (h : IsGap t) : run t = ⟨[], none, []⟩ := by
  have hp := positioned?_eq_found_none_iff.2 ⟨h, rfl⟩
  rw [run]
  split <;> simp_all

theorem run_of_found {t rest : List Char} {p : List Char × Token}
    (h : positioned? t = .found (some p) rest) :
    run t = { run rest with tokens := p :: (run rest).tokens } := by
  rw [run]
  split <;> simp_all

theorem run_of_failed {t place rest : List Char} {cause : Cause}
    (h : positioned? t = .failed cause place rest) : run t = ⟨[], some (cause, place), rest⟩ := by
  rw [run]
  split <;> simp_all

/-- A gap and a spelling that does not go on with the rest are one step of a run. -/
theorem run_of_standsBefore {gap place rest : List Char} {token : Token} (hgap : IsGap gap)
    (h : StandsBefore place token rest) :
    run (gap ++ place) = { run rest with tokens := (place, token) :: (run rest).tokens } :=
  run_of_found (positioned?_eq_found_some_iff.2 ⟨gap, rfl, hgap, h⟩)

/-- A gap in front of a text makes no difference to its run. -/
theorem run_append_of_gap {gap t : List Char} (hgap : IsGap gap) : run (gap ++ t) = run t := by
  have hp : positioned? (gap ++ t) = positioned? t := by
    rw [positioned?, behindBlanks, List.dropWhile_append_of_pos hgap]
    rfl
  cases h : positioned? t with
  | failed cause place rest => rw [run_of_failed h, run_of_failed (hp.trans h)]
  | found a rest =>
    cases a with
    | some p => rw [run_of_found h, run_of_found (hp.trans h)]
    | none =>
      obtain ⟨ht, -⟩ := positioned?_eq_found_none_iff.1 h
      obtain ⟨hgt, -⟩ := positioned?_eq_found_none_iff.1 (hp.trans h)
      rw [run_of_gap ht, run_of_gap hgt]

end Ahead

namespace TokenRun

open Ahead

/-! ### The run of a stream -/

/-- A found token, with its place in `text` as a position. -/
def locate (text : List Char) (p : List Char × Token) : Position × Token :=
  (.ofSuffix text p.1, p.2)

theorem snd_comp_locate (text : List Char) :
    ((·.2) : Position × Token → Token) ∘ locate text = (·.2) := rfl

/-- A failure, with its place in `text` as a position. -/
def locateFailure (text : List Char) (f : Cause × List Char) : LexError :=
  ⟨f.1, .ofSuffix text f.2⟩

/-- **The run of a stream that stands in a text is the run over the text ahead.** -/
theorem within_at {text : List Char} : ∀ (bound : Nat) {t : List Char} {s : Stream},
    t.length < bound → s.At text t →
      ∃ s', within bound s = ⟨(run t).tokens.map (locate text),
          (run t).failure.map fun f => .lexing (locateFailure text f), s'⟩ ∧
        s'.At text (run t).rest
  | 0, _, _, hlt, _ => by omega
  | bound + 1, t, s, hlt, h => by
    have hstep := Scan.comes_positioned? s h
    cases hp : positioned? t with
    | failed cause place rest =>
      rw [hp] at hstep
      obtain ⟨s₁, hs₁, hat₁⟩ := hstep
      rw [run_of_failed hp]
      exact ⟨s₁, by rw [within, hs₁]; rfl, hat₁⟩
    | found a rest =>
      rw [hp] at hstep
      obtain ⟨s₁, hs₁, hat₁⟩ := hstep
      cases a with
      | none =>
        obtain ⟨hgap, rfl⟩ := positioned?_eq_found_none_iff.1 hp
        rw [run_of_gap hgap]
        exact ⟨s₁, by rw [within, hs₁]; rfl, hat₁⟩
      | some p =>
        -- the token shortens the text ahead, so the bound suffices for the rest
        have hshort := length_lt_of_positioned? hp
        obtain ⟨s₂, hs₂, hat₂⟩ := within_at bound (by omega) hat₁
        rw [run_of_found hp]
        exact ⟨s₂, by rw [within, hs₁]; simp only [Option.map_some, hs₂]; rfl, hat₂⟩

/-- Lexing the rest of a stream is the run over what is ahead. -/
theorem ofStream_at {text t : List Char} {s : Stream} (h : s.At text t) :
    ∃ s', ofStream s = ⟨(run t).tokens.map (locate text),
        (run t).failure.map fun f => .lexing (locateFailure text f), s'⟩ ∧
      s'.At text (run t).rest :=
  within_at _ (by rw [h.size_eq]; omega) h

/-- **A text is lexed as the run over it says**, with the places as positions. -/
theorem positioned_ofText (text : List Char) :
    (ofText text).positioned =
      match (run text).failure with
      | none => .ok ((run text).tokens.map (locate text))
      | some f => .error (.lexing (locateFailure text f)) := by
  obtain ⟨s', hs', -⟩ := ofStream_at (Stream.at_ofText text)
  rw [ofText, hs', positioned]
  cases (run text).failure <;> rfl

theorem positioned_eq_ok_iff {text : List Char} {ts : List (Position × Token)} :
    (ofText text).positioned = .ok ts ↔
      (run text).failure = none ∧ ts = (run text).tokens.map (locate text) := by
  rw [positioned_ofText]
  cases (run text).failure <;> simp [eq_comm]

end TokenRun

/-! ### The tokens without their starts -/

namespace Ahead

/-- What scanning all the tokens ahead comes to. -/
def tokens (t : List Char) : Scanned (List Token) :=
  match (run t).failure with
  | none => .found ((run t).tokens.map (·.2)) (run t).rest
  | some (cause, place) => .failed cause place (run t).rest

theorem tokens_eq_found_iff {t rest : List Char} {ts : List Token} :
    tokens t = .found ts rest ↔
      (run t).failure = none ∧ ts = (run t).tokens.map (·.2) ∧ rest = (run t).rest := by
  rw [tokens]
  cases (run t).failure <;> simp [eq_comm]

end Ahead

theorem Scan.comes_tokens {text ahead : List Char} :
    tokens.Comes text ahead (Ahead.tokens ahead) := by
  intro s hs
  obtain ⟨s', hs', hat⟩ := TokenRun.ofStream_at hs
  have htokens := tokensWithin_eq (s.size + 1) s
  rw [TokenRun.ofStream] at hs'
  rw [hs'] at htokens
  rw [tokens, bounded, htokens, Ahead.tokens]
  cases (Ahead.run ahead).failure with
  | none => exact ⟨s', by simp [TokenRun.snd_comp_locate], hat⟩
  | some f => exact ⟨s', rfl, hat⟩

theorem tokenize_eq_ok_iff {text : List Char} {ts : List Token} :
    tokenize text = .ok ts ↔
      (Ahead.run text).failure = none ∧ ts = (Ahead.run text).tokens.map (·.2) := by
  rw [tokenize_eq_complete, TokenRun.complete, TokenRun.positioned_ofText]
  cases (Ahead.run text).failure with
  | none =>
    simp [Except.map, TokenRun.snd_comp_locate, eq_comm]
  | some f => simp [Except.map]

/-- A run over a spelling alone finds its token. -/
theorem run_of_spells {l : List Char} {t : Token} (h : Spells l t) :
    Ahead.run l = ⟨[(l, t)], none, []⟩ := by
  have hrun := Ahead.run_of_standsBefore isGap_nil h.standsBefore_nil
  rwa [List.nil_append, Ahead.run_of_gap isGap_nil] at hrun

/-- A spelling that does not go on with the rest is lexed in front of it. -/
theorem tokenize_of_standsBefore {t rest : List Char} {token : Token} {ts : List Token}
    (h : StandsBefore t token rest) (hrest : tokenize rest = .ok ts) :
    tokenize t = .ok (token :: ts) := by
  obtain ⟨hfailure, rfl⟩ := tokenize_eq_ok_iff.1 hrest
  have hrun := Ahead.run_of_standsBefore isGap_nil h
  rw [List.nil_append] at hrun
  rw [tokenize_eq_ok_iff, hrun]
  exact ⟨hfailure, rfl⟩

/-- A spelling alone is lexed to its token. -/
theorem tokenize_of_spells {l : List Char} {t : Token} (h : Spells l t) : tokenize l = .ok [t] := by
  rw [tokenize_eq_ok_iff, run_of_spells h]
  exact ⟨rfl, rfl⟩

theorem tokenize_eq_error_iff {text : List Char} {f : Failure} :
    tokenize text = .error f ↔
      ∃ g, (Ahead.run text).failure = some g ∧ f = .lexing (TokenRun.locateFailure text g) := by
  rw [tokenize_eq_complete, TokenRun.complete, TokenRun.positioned_ofText]
  cases (Ahead.run text).failure with
  | none => simp [Except.map]
  | some g => simp [Except.map, eq_comm]

end Lexis
