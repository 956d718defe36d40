import Lexis.Diagnostic.Editor
import Lexis.Proofs.LineFeed
import Lexis.Proofs.Text.Lines

/-! # Diagnostics lie on characters of the document

A run that starts at the front of a text asks for a token only where some character that is no blank
is left, and whatever stops it there, its failure lies on such a character
(`exists_getElem?_of_tokenize_eq_error`): never behind the text, and never on a line end.

What is lexed is not the document itself, but the document with a question mark for each character
that has no byte. The exchange spares the line ends, so it leaves every location as it is
(`ofOffset_replaceOthers`), and no blank comes or goes with it. Hence the diagnostic of the failure
lies on a character of the document (`Diagnostic.ofDocument_locates`). -/

namespace Lexis

open CharClass Run

/-! ### Where a run fails -/

namespace Ahead

/-- The place of a failure begins with a character that is no blank. -/
theorem exists_cons_of_positioned?_failed {t place rest : List Char} {cause : Cause}
    (h : positioned? t = .failed cause place rest) :
    ∃ c w, place = c :: w ∧ isBlank c = false := by
  rw [positioned?] at h
  cases hb : behindBlanks t with
  | nil => rw [hb] at h; cases h
  | cons c w =>
    rw [hb] at h
    have hends : EndsBefore isBlank (c :: w) := hb ▸ endsBefore_dropWhile isBlank t
    have hc : isBlank c = false := endsBefore_cons.1 hends
    have hrejected : Rejected (c :: w) cause place :=
      exists_whole_eq_failed_iff.1 ⟨rest, Scanned.map_eq_failed_iff.1 h⟩
    cases hrejected with
    | early _ => exact ⟨c, w, rfl, hc⟩
    | unknown _ _ => exact ⟨c, w, rfl, hc⟩
    | malformed _ _ hu =>
      -- the failure is placed behind the sign or the letter, on the first digit
      obtain ⟨d, v, rfl, hd⟩ := exists_cons_of_any_isDigit hu.any_isDigit
      exact ⟨d, v, rfl, isBlank_eq_false_of_isDigit hd⟩

theorem exists_cons_of_run_failed (t : List Char) :
    ∀ f ∈ (run t).failure, ∃ c w, f.2 = c :: w ∧ isBlank c = false := by
  induction t using run.induct with
  | case1 t rest hp =>
    rw [run_of_gap (positioned?_eq_found_none_iff.1 hp).1]
    intro f hf
    cases hf
  | case2 t p rest hp ih =>
    rw [run_of_found hp]
    exact ih
  | case3 t cause place rest hp =>
    rw [run_of_failed hp]
    intro f hf
    rw [← Option.some.inj hf]
    exact exists_cons_of_positioned?_failed hp

end Ahead

/-- **The failure of a text lies on one of its characters**, which is no blank. -/
theorem exists_getElem?_of_tokenize_eq_error {text : List Char} {f : Failure}
    (h : tokenize text = .error f) :
    ∃ (e : LexError) (o : Nat) (c : Char), f = .lexing e ∧ e.position.offset = o ∧
      text[o]? = some c ∧ isBlank c = false := by
  obtain ⟨g, hg, rfl⟩ := tokenize_eq_error_iff.1 h
  obtain ⟨c, w, hplace, hc⟩ := Ahead.exists_cons_of_run_failed text g hg
  have hsuffix : g.2 <:+ text := (Ahead.suffix_of_run text).2 g hg
  refine ⟨_, text.length - g.2.length, c, rfl, ?_, ?_, hc⟩
  · have hoffset := Position.offset_ofSuffix hsuffix
    have hle := hsuffix.length_le
    show (Position.ofSuffix text g.2).offset = _
    omega
  · obtain ⟨before, rfl⟩ := hsuffix
    rw [hplace, List.length_append, Nat.add_sub_cancel_right]
    simp

/-! ### Exchanging characters -/

namespace Location

/-- A walk looks only at the line ends, so an exchange of characters that spares them makes no
difference to it. -/
theorem walk_map {f : Char → Char} (hcr : ∀ c, f c = '\r' ↔ c = '\r')
    (hlf : ∀ c, f c = '\n' ↔ c = '\n') (here : Location) (t : List Char) (n : Nat) :
    walk here (t.map f) n = walk here t n := by
  have hend : ∀ c, isLineEnd (f c) = isLineEnd c := by
    intro c
    rw [Bool.eq_iff_iff]
    simp [isLineEnd, hcr, hlf]
  -- a pair in front of the exchanged text has been one before
  have hpairs : ∀ (d : Char) (rest u : List Char), f d = '\r' → rest.map f = '\n' :: u →
      d = '\r' ∧ ∃ v, rest = '\n' :: v := by
    intro d rest u hd hu
    obtain ⟨c, v, rfl, hc, -⟩ := List.map_eq_cons_iff.1 hu
    exact ⟨(hcr d).1 hd, v, by rw [(hlf c).1 hc]⟩
  fun_induction walk here t n with
  | case1 t here => simp [walk]
  | case2 n here hn => simp [walk]
  | case3 here rest n ih =>
    rw [List.map_cons, List.map_cons, (hcr _).2 rfl, (hlf _).2 rfl, walk, ih]
  | case4 here d rest n hpair hd ih =>
    rw [List.map_cons, walk, if_pos ((hend d).trans hd), ih]
    intro u m hfd hu hn
    obtain ⟨hd, v, rfl⟩ := hpairs d rest u hfd hu
    exact hpair v m hd rfl hn
  | case5 here d rest n hpair hd ih =>
    rw [List.map_cons, walk, hend, if_neg hd, ih]
    intro u m hfd hu hn
    obtain ⟨hd, v, rfl⟩ := hpairs d rest u hfd hu
    exact hpair v m hd rfl hn

end Location

namespace Latin

/-- The character that stands for `c` in a text that has a byte form. -/
def replaced (c : Char) : Char := if fits c then c else '?'

theorem replaced_eq_iff {c d : Char} (hd : fits d = true) (hne : d ≠ '?') :
    replaced c = d ↔ c = d := by
  by_cases hc : fits c = true
  · rw [replaced, if_pos hc]
  · rw [replaced, if_neg hc]
    constructor
    · rintro rfl
      exact absurd rfl hne
    · rintro rfl
      exact absurd hd hc

/-- Every blank has a byte. -/
theorem fits_of_isBlank {c : Char} (h : isBlank c = true) : fits c = true := by
  simp only [isBlank, fits, Bool.or_eq_true, Bool.and_eq_true, decide_eq_true_eq, beq_iff_eq] at *
  omega

/-- A blank stands for itself. -/
theorem isBlank_eq_false_of_replaced {c : Char} (h : isBlank (replaced c) = false) :
    isBlank c = false := by
  rw [← Bool.not_eq_true]
  intro hc
  rw [replaced, if_pos (fits_of_isBlank hc), hc] at h
  cases h

/-- **The exchange leaves every location as it is.** -/
theorem ofOffset_replaceOthers (document : List Char) (o : Int) :
    Location.ofOffset (replaceOthers document) o = Location.ofOffset document o := by
  rw [Location.ofOffset, Location.ofOffset]
  split
  · rfl
  · exact Location.walk_map (fun _ => replaced_eq_iff (by decide) (by decide))
      (fun _ => replaced_eq_iff (by decide) (by decide)) _ document _

end Latin

theorem CharClass.isLineEnd_eq_false_of_not_isBlank {c : Char} (h : isBlank c = false) :
    isLineEnd c = false := by
  rw [← Bool.not_eq_true]
  intro hc
  have hor : c = '\n' ∨ c = '\r' := by simpa [isLineEnd] using hc
  rcases hor with rfl | rfl
  · cases h
  · cases h

/-! ### The diagnostics of a document -/

namespace Diagnostic

theorem ofDocument_of_ok {document : List Char} {ts : List Token}
    (h : tokenize (Latin.replaceOthers document) = .ok ts) : ofDocument document = [] := by
  rw [ofDocument, h]

theorem ofDocument_of_error {document : List Char} {e : LexError}
    (h : tokenize (Latin.replaceOthers document) = .error (.lexing e)) :
    ofDocument document = [ofLexError (Latin.replaceOthers document) e] := by
  rw [ofDocument, h]

/-- The diagnostic of an error: the one character at its location, and a warning only if the text
ended early. -/
theorem ofLexError_eq (text : List Char) (e : LexError) :
    ∃ message severity,
      ofLexError text e = atLocation (Location.ofOffset text e.position.offset) message severity ∧
        (severity = .warning ↔ e.cause = .noToken) := by
  obtain ⟨cause, position⟩ := e
  cases cause with
  | noToken => exact ⟨_, _, rfl, by simp⟩
  | malformedNumber u => exact ⟨_, _, rfl, by simp⟩
  | unknownOperator c => exact ⟨_, _, rfl, by simp⟩

/-- The diagnostic marks the character `c`, which the document has at the offset `o` and its line `l`
at the index `k`. -/
structure Marks (d : Diagnostic) (document : List Char) (o l k : Nat) (c : Char) : Prop where
  start : d.start = ⟨l, k⟩
  stop : d.stop = ⟨l, (k + 1 : Nat)⟩
  atOffset : document[o]? = some c
  atIndex : Lines.Stands document l k c

/-- The diagnostic of an error at a character that is no line end marks this character. -/
theorem marks_atLocation {document : List Char} {o : Nat} {c : Char} (hc : document[o]? = some c)
    (hend : isLineEnd c = false) (message : String) (severity : Severity) :
    ∃ l k, (atLocation (Location.ofOffset document o) message severity).Marks document o l k c := by
  obtain ⟨l, k, hstands, hhere⟩ := Location.ofOffset_of_getElem? hc hend
  rw [hhere]
  exact ⟨l, k, by simp [atLocation], by simp [atLocation], hc, hstands⟩

/-- **A diagnostic lies on a character of the document.** A document has at most one diagnostic, and
none exactly when it is lexed to its end, a question mark standing for each character that has no
byte. Otherwise lexing stops for a lexical error, and the diagnostic marks the character of the
document that has the offset of the error. This character is no blank, hence no line end and no half
of a CR LF pair. The diagnostic is a warning exactly when no token was found. -/
theorem ofDocument_locates (document : List Char) :
    let text := Latin.replaceOthers document
    (ofDocument document).length ≤ 1 ∧
      (ofDocument document = [] ↔ ∃ ts, tokenize text = .ok ts) ∧
      ∀ f, tokenize text = .error f →
        ∃ (e : LexError) (d : Diagnostic) (o l k : Nat) (c : Char),
          f = .lexing e ∧ e.position.offset = o ∧ ofDocument document = [d] ∧
          d.Marks document o l k c ∧ isBlank c = false ∧ isLineEnd c = false ∧
          (d.severity = .warning ↔ e.cause = .noToken) := by
  intro text
  cases htext : tokenize text with
  | ok ts =>
    have hnone : ofDocument document = [] := ofDocument_of_ok htext
    refine ⟨by simp [hnone], by simp [hnone], fun f hf => ?_⟩
    cases hf
  | error f =>
    obtain ⟨e, o, c', rfl, ho, hc', hblank'⟩ := exists_getElem?_of_tokenize_eq_error htext
    have hone := ofDocument_of_error htext
    refine ⟨by simp [hone], by simp [hone], fun f hf => ?_⟩
    cases hf
    obtain ⟨c, hc, rfl⟩ : ∃ c, document[o]? = some c ∧ Latin.replaced c = c' :=
      Option.map_eq_some_iff.1 (List.getElem?_map.symm.trans hc')
    have hblank := Latin.isBlank_eq_false_of_replaced hblank'
    have hend := isLineEnd_eq_false_of_not_isBlank hblank
    obtain ⟨message, severity, hd, hseverity⟩ := ofLexError_eq text e
    rw [ho, Latin.ofOffset_replaceOthers] at hd
    obtain ⟨l, k, hmarks⟩ := marks_atLocation hc hend message severity
    exact ⟨e, _, o, l, k, c, rfl, ho, hone.trans (by rw [hd]), hmarks, hblank, hend, hseverity⟩

/-- A character without a byte, on the second line of a document with a CR LF pair. -/
theorem ofDocument_locates_without_byte :
    let document := "ab\r\n\t€".toList
    let e : LexError := ⟨.unknownOperator '?', ⟨2, 0, 5, false⟩⟩
    tokenize (Latin.replaceOthers document) = .error (.lexing e) ∧
      ofDocument document =
        [⟨⟨1, 1⟩, ⟨1, 2⟩, "no operator starting with '?' exists", .error⟩] ∧
      ∃ (e' : LexError) (d : Diagnostic) (o l k : Nat) (c : Char),
        Failure.lexing e = .lexing e' ∧ e'.position.offset = o ∧ ofDocument document = [d] ∧
        d.Marks document o l k c ∧ isBlank c = false ∧ isLineEnd c = false ∧
        (d.severity = .warning ↔ e'.cause = .noToken) := by
  intro document e
  have he : tokenize (Latin.replaceOthers document) = .error (.lexing e) := by decide +kernel
  exact ⟨he, by decide +kernel, (ofDocument_locates document).2.2 _ he⟩

end Diagnostic

end Lexis
