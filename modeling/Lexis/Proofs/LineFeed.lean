import Lexis.Proofs.Lexeme.Failure
import Lexis.Proofs.TokenRun

/-! # Two texts with a line feed in between

A line feed ends whatever a text may end with: no lexeme goes on with it, not even a line comment. So
a text that is lexed to its end is lexed in the same way in front of a line feed, and the run goes on
with the text behind it as if it were a text of its own (`Ahead.run_append_lineFeed`). Only the
positions behind the line feed count what lies before it.

For positions, a token is placed by the text that begins with it. The places of a run are suffixes of
its text (`Ahead.suffix_of_mem_run`), hence their offsets are given by their lengths. -/

namespace Lexis

open CharClass Run

theorem StandsBefore.append_lineFeed {t rest : List Char} {token : Token}
    (h : StandsBefore t token rest) (b : List Char) :
    StandsBefore (t ++ '\n' :: b) token (rest ++ '\n' :: b) := by
  obtain ⟨l, rfl, hl, hend⟩ := h
  refine ⟨l, List.append_assoc _ _ _, hl, ?_⟩
  cases rest with
  | nil => exact endsBefore_cons.2 (goesOn_eq_false_of_isBlank rfl fun _ => rfl)
  | cons d rest => exact endsBefore_cons.2 (endsBefore_cons.1 hend)

namespace Ahead

/-! ### The run -/

/-- **A run that does not fail goes on behind a line feed** with the run over the text there. -/
theorem run_append_lineFeed (a b : List Char) : (run a).failure = none →
    run (a ++ '\n' :: b) =
      { run b with
        tokens := (run a).tokens.map (fun p => (p.1 ++ '\n' :: b, p.2)) ++ (run b).tokens } := by
  induction a using run.induct with
  | case1 a rest hp =>
    intro _
    obtain ⟨hgap, -⟩ := positioned?_eq_found_none_iff.1 hp
    -- the line feed belongs to the gap that `a` ends with
    have hgap' : IsGap (a ++ ['\n']) := by
      intro c hc
      rcases List.mem_append.1 hc with hc | hc
      · exact hgap c hc
      · rw [List.mem_singleton.1 hc]
        rfl
    have hsplit : a ++ '\n' :: b = (a ++ ['\n']) ++ b := by simp
    rw [hsplit, run_append_of_gap hgap', run_of_gap hgap]
    rfl
  | case2 a p rest hp ih =>
    intro hfail
    rw [run_of_found hp] at hfail ⊢
    obtain ⟨gap, rfl, hgap, hstands⟩ := positioned?_eq_found_some_iff.1 hp
    rw [List.append_assoc, run_of_standsBefore hgap (hstands.append_lineFeed b), ih hfail]
    rfl
  | case3 a cause place rest hp =>
    intro hfail
    rw [run_of_failed hp] at hfail
    cases hfail

/-! ### Places -/

theorem suffix_of_positioned?_failed {t place rest : List Char} {cause : Cause}
    (h : positioned? t = .failed cause place rest) : place <:+ t := by
  rw [positioned?] at h
  cases hb : behindBlanks t with
  | nil => rw [hb] at h; cases h
  | cons c w =>
    rw [hb] at h
    have hplace := (exists_whole_eq_failed_iff.1 ⟨rest, Scanned.map_eq_failed_iff.1 h⟩).suffix
    rw [← hb] at hplace
    exact hplace.trans (List.dropWhile_suffix isBlank)

/-- The places of the tokens and of the failure are suffixes of the text. -/
theorem suffix_of_run (t : List Char) :
    (∀ p ∈ (run t).tokens, p.1 <:+ t) ∧ ∀ f ∈ (run t).failure, f.2 <:+ t := by
  induction t using run.induct with
  | case1 t rest hp =>
    rw [run_of_gap (positioned?_eq_found_none_iff.1 hp).1]
    simp
  | case2 t p rest hp ih =>
    obtain ⟨gap, rfl, -, l, hplace, -⟩ := positioned?_eq_found_some_iff.1 hp
    have hp1 : p.1 <:+ gap ++ p.1 := List.suffix_append gap p.1
    have hrest : rest <:+ gap ++ p.1 := by
      rw [hplace]
      exact (List.suffix_append l rest).trans (List.suffix_append gap _)
    rw [run_of_found hp]
    constructor
    · intro q hq
      rcases List.mem_cons.1 hq with rfl | hq
      · exact hp1
      · exact (ih.1 q hq).trans hrest
    · intro f hf
      exact (ih.2 f hf).trans hrest
  | case3 t cause place rest hp =>
    rw [run_of_failed hp]
    simpa using suffix_of_positioned?_failed hp

end Ahead

namespace Position

/-- What follows a place does not change its position. -/
theorem ofSuffix_append_append {a place : List Char} (h : place <:+ a) (b : List Char) :
    ofSuffix (a ++ b) (place ++ b) = ofSuffix a place := by
  obtain ⟨before, rfl⟩ := h
  rw [List.append_assoc, ofSuffix_append, ofSuffix_append]

/-- What lies before a line feed moves the offsets behind it. -/
theorem offset_behind_lineFeed {b place : List Char} (h : place <:+ b) (a : List Char) :
    (ofSuffix (a ++ '\n' :: b) place).offset = a.length + 1 + (ofSuffix b place).offset := by
  have hb : b <:+ a ++ '\n' :: b := (List.suffix_cons '\n' b).trans (List.suffix_append a _)
  rw [offset_ofSuffix h, offset_ofSuffix (h.trans hb), List.length_append, List.length_cons]
  omega

end Position

/-! ### Lexing both texts -/

namespace TokenRun

open Ahead

/-- The tokens in front of the line feed keep their positions. -/
theorem map_locate_append_lineFeed {a b : List Char} (hfail : (run a).failure = none) :
    (run (a ++ '\n' :: b)).tokens.map (locate (a ++ '\n' :: b)) =
      (run a).tokens.map (locate a) ++ (run b).tokens.map (locate (a ++ '\n' :: b)) := by
  rw [run_append_lineFeed a b hfail, List.map_append, List.map_map]
  congr 1
  refine List.map_congr_left fun p hp => ?_
  rw [Function.comp_apply, locate, locate,
    Position.ofSuffix_append_append ((suffix_of_run a).1 p hp)]

/-- The tokens behind the line feed are moved by what lies before them. -/
theorem map_offset_behind_lineFeed (a b : List Char) :
    ((run b).tokens.map (locate (a ++ '\n' :: b))).map (·.1.offset) =
      ((run b).tokens.map (locate b)).map fun p => (a.length : Int) + 1 + p.1.offset := by
  rw [List.map_map, List.map_map]
  exact List.map_congr_left fun p hp =>
    Position.offset_behind_lineFeed ((suffix_of_run b).1 p hp) a

end TokenRun

/-- **A line feed separates two texts.** Behind a text that is lexed to its end, the other is lexed
as on its own, with its offsets moved by the length of the first text and of the line feed. -/
theorem tokenize_append_lineFeed {a b : List Char} {ts : List Token} (ha : tokenize a = .ok ts) :
    (∀ us, tokenize b = .ok us → tokenize (a ++ '\n' :: b) = .ok (ts ++ us)) ∧
      (∀ ps, (TokenRun.ofText b).positioned = .ok ps → ∃ qs rs,
        (TokenRun.ofText a).positioned = .ok qs ∧
        (TokenRun.ofText (a ++ '\n' :: b)).positioned = .ok (qs ++ rs) ∧
        rs.map (·.2) = ps.map (·.2) ∧
        rs.map (·.1.offset) = ps.map fun p => (a.length : Int) + 1 + p.1.offset) ∧
      ∀ f, tokenize b = .error f → ∃ cause place place',
        f = .lexing ⟨cause, place⟩ ∧
        tokenize (a ++ '\n' :: b) = .error (.lexing ⟨cause, place'⟩) ∧
        place'.offset = a.length + 1 + place.offset := by
  obtain ⟨hfail, rfl⟩ := tokenize_eq_ok_iff.1 ha
  have hrun := Ahead.run_append_lineFeed a b hfail
  refine ⟨fun us hus => ?_, fun ps hps => ?_, fun f hf => ?_⟩
  · obtain ⟨hb, rfl⟩ := tokenize_eq_ok_iff.1 hus
    refine tokenize_eq_ok_iff.2 ⟨by rw [hrun]; exact hb, ?_⟩
    rw [hrun, List.map_append, List.map_map]
    rfl
  · obtain ⟨hb, rfl⟩ := TokenRun.positioned_eq_ok_iff.1 hps
    refine ⟨_, _, TokenRun.positioned_eq_ok_iff.2 ⟨hfail, rfl⟩,
      TokenRun.positioned_eq_ok_iff.2 ⟨by rw [hrun]; exact hb,
        (TokenRun.map_locate_append_lineFeed hfail).symm⟩,
      ?_, TokenRun.map_offset_behind_lineFeed a b⟩
    rw [List.map_map, List.map_map]
    rfl
  · obtain ⟨g, hb, rfl⟩ := tokenize_eq_error_iff.1 hf
    refine ⟨g.1, _, _, rfl, tokenize_eq_error_iff.2 ⟨g, by rw [hrun]; exact hb, rfl⟩, ?_⟩
    exact Position.offset_behind_lineFeed ((Ahead.suffix_of_run b).2 g hb) a

/-- A text that ends in a line comment, and one that fails behind its first token. -/
theorem tokenize_append_lineFeed_comment :
    tokenize ['v', '/', '/', '\r'] = .ok [.identifier "v", .comment "\r"] ∧
      ∃ place, tokenize (['v', '/', '/', '\r'] ++ '\n' :: ['a', ' ', '$']) =
        .error (.lexing ⟨.noToken, place⟩) ∧ place.offset = 7 := by
  have ha : tokenize ['v', '/', '/', '\r'] = .ok [.identifier "v", .comment "\r"] := by
    decide +kernel
  have hb : tokenize ['a', ' ', '$'] = .error (.lexing ⟨.noToken, ⟨0, 2, 2, false⟩⟩) := by
    decide +kernel
  obtain ⟨cause, place, place', hf, herror, hoffset⟩ := (tokenize_append_lineFeed ha).2.2 _ hb
  injection hf with hf
  injection hf with hcause hplace
  rw [← hcause] at herror
  rw [← hplace] at hoffset
  exact ⟨ha, place', herror, hoffset⟩

end Lexis
