import Lexis.Listing
import Lexis.Proofs.Diagnostic.Caret
import Lexis.Proofs.Passage
import Lexis.Proofs.Token.Text
import Mathlib.Algebra.Order.BigOperators.Group.List
import Mathlib.Algebra.Order.Ring.Nat

/-! # Lines of listings

A listing ends each of its lines with LF, so it has one line for each token, and one more for each LF
inside a line (`Listing.splitOn_lines`, `Listing.count_lines`). What stands in front of the text of a
token holds numbers and signs only and breaks no line. So it is the text of the tokens that decides how
many lines there are.

The dump shows the debugging texts, which break no line either when the tokens come from a run over a
text: it has one line for each token, and a line belongs to one kind and one payload
(`Listing.dump_one_line_each`). The plain listing shows the canonical texts, in which a payload may
have line feeds (`Listing.count_render`). -/

namespace Lexis

namespace Listing

/-! ### Lines ended by LF -/

section Lines
variable {α : Type} (f : α → List Char) (ts : List α)

/-- The lines of the items, each ended by LF. -/
def lines : List Char := ts.flatMap fun t => f t ++ ['\n']

/-- **Cut at LF**, the lines give what the items give, and an empty piece behind the last end. -/
theorem splitOn_lines :
    (lines f ts).splitOn '\n' = (ts.flatMap fun t => (f t).splitOn '\n') ++ [[]] := by
  induction ts with
  | nil => rfl
  | cons t ts ih =>
    have hcons : lines f (t :: ts) = f t ++ '\n' :: lines f ts := by simp [lines]
    rw [hcons, List.splitOn_append_cons_self, ih, List.flatMap_cons, List.append_assoc]

/-- **The line feeds** are one for each item, and those inside the items. -/
theorem count_lines :
    (lines f ts).count '\n' = ts.length + (ts.map fun t => (f t).count '\n').sum := by
  induction ts with
  | nil => rfl
  | cons t ts ih =>
    have hcons : lines f (t :: ts) = f t ++ '\n' :: lines f ts := by simp [lines]
    rw [hcons, List.count_append, List.count_cons_self, ih, List.map_cons, List.sum_cons,
      List.length_cons]
    omega

variable {f ts}

/-- Items without LF are the pieces. -/
theorem splitOn_lines_of_notMem (h : ∀ t ∈ ts, '\n' ∉ f t) :
    (lines f ts).splitOn '\n' = ts.map f ++ [[]] := by
  have hpieces : (ts.flatMap fun t => (f t).splitOn '\n') = ts.flatMap fun t => [f t] :=
    List.flatMap_congr fun t ht => List.splitOn_eq_singleton (h t ht)
  rw [splitOn_lines, hpieces, ← List.map_eq_flatMap]

/-- There are as many line feeds as items exactly if no item has one. -/
theorem count_lines_eq_length_iff :
    (lines f ts).count '\n' = ts.length ↔ ∀ t ∈ ts, '\n' ∉ f t := by
  rw [count_lines, Nat.add_eq_left, List.sum_eq_zero_iff]
  simp only [List.mem_map, forall_exists_index, and_imp, forall_apply_eq_imp_iff₂,
    List.count_eq_zero]

end Lines

theorem toList_join_lines {α : Type} (f : α → String) (ts : List α) :
    (String.join (ts.map fun t => f t ++ "\n")).toList = lines (fun t => (f t).toList) ts := by
  simp [lines, String.toList_join, List.flatMap_map]

/-! ### What stands in front of a token -/

theorem isOneLine_toString (n : Int) : IsOneLine (toString n).toList := by
  have hnat : ∀ m : Nat, IsOneLine (toString m).toList := by
    intro m c hc hbreak
    have table : (lineBreaks.all fun c => c.isDigit == false) = true := by decide
    have hdigit := List.all_eq_true.1 table c hbreak
    exact not_mem_toList_toString (beq_iff_eq.1 hdigit) m hc
  cases n with
  | ofNat m => exact hnat m
  | negSucc m =>
    have hneg : (toString (Int.negSucc m)).toList = '-' :: (toString (m + 1)).toList := by
      rw [show toString (Int.negSucc m) = "-" ++ toString (m + 1) from rfl, String.toList_append]
      rfl
    rw [hneg, IsOneLine.cons_iff]
    exact ⟨by decide, hnat (m + 1)⟩

theorem isOneLine_blanks (n : Nat) : IsOneLine (List.replicate n ' ') := by
  intro c hc
  rw [List.eq_of_mem_replicate hc]
  decide

theorem isOneLine_padLeft {width : Nat} {s : String} (h : IsOneLine s.toList) :
    IsOneLine (padLeft width s).toList := by
  rw [padLeft, String.toList_append, String.toList_ofList, IsOneLine.append_iff]
  exact ⟨isOneLine_blanks _, h⟩

theorem isOneLine_padRight {width : Nat} {s : String} (h : IsOneLine s.toList) :
    IsOneLine (padRight width s).toList := by
  rw [padRight, String.toList_append, String.toList_ofList, IsOneLine.append_iff]
  exact ⟨h, isOneLine_blanks _⟩

/-- A line of the plain listing is the canonical text behind something that breaks no line. -/
theorem exists_line_eq (l : Layout) (source : List Char) (t : Position × Token) :
    ∃ front, IsOneLine front ∧ (l.line source t).toList = front ++ t.2.text.toList := by
  unfold Layout.line
  split_ifs
  · refine ⟨_, ?_, by simp only [String.toList_append]; rfl⟩
    simp only [IsOneLine.append_iff, isOneLine_toString, true_and]
    decide
  · exact ⟨[], .nil, rfl⟩

/-- A line of the dump breaks no line if the debugging text breaks none. -/
theorem isOneLine_dumpLine (source : List Char) {t : Position × Token}
    (h : IsOneLine t.2.debugText.toList) : IsOneLine (dumpLine source t).toList := by
  have hcolon : IsOneLine ":".toList := by decide
  have hat : IsOneLine " @".toList := by decide
  have hblank : IsOneLine " ".toList := by decide
  simp only [dumpLine, String.toList_append, IsOneLine.append_iff]
  exact ⟨⟨⟨⟨⟨⟨isOneLine_padLeft (isOneLine_toString _), hcolon⟩,
    isOneLine_padRight (isOneLine_toString _)⟩, hat⟩, isOneLine_padRight (isOneLine_toString _)⟩,
    hblank⟩, h⟩

/-! ### Listings of a run -/

/-- The tokens of a run over a text have spellings. -/
theorem exists_spells_of_mem {text : List Char} {t : Position × Token}
    (h : t ∈ (TokenRun.ofText text).tokens) : ∃ l, Spells l t.2 := by
  obtain ⟨stream, hrun, -⟩ := TokenRun.ofStream_at (Stream.at_ofText text)
  obtain ⟨passed, -, hwithin⟩ := Ahead.spelledWithin_run text
  rw [TokenRun.ofText, hrun] at h
  obtain ⟨p, hp, rfl⟩ := List.mem_map.1 h
  exact hwithin.exists_spells p.2 (List.mem_map_of_mem hp)

/-! ### The plain listing -/

section Plain
variable (l : Layout) (source : List Char) (ts : List (Position × Token))

theorem toList_render :
    (render l source ts).toList =
      lines (fun t => (l.line source t).toList) (ts.filter (l.keeps ·.2)) :=
  toList_join_lines _ _

theorem count_line (t : Position × Token) :
    (l.line source t).toList.count '\n' = t.2.text.toList.count '\n' := by
  obtain ⟨front, hfront, heq⟩ := exists_line_eq l source t
  rw [heq, List.count_append, List.count_eq_zero.2 hfront.lineFeed_notMem, Nat.zero_add]

theorem lineFeed_mem_line_iff (t : Position × Token) :
    '\n' ∈ (l.line source t).toList ↔ '\n' ∈ t.2.text.toList := by
  rw [← List.count_pos_iff, count_line, List.count_pos_iff]

/-- The line feeds of a plain listing are one for each token that is kept, and those in the canonical
texts. -/
theorem count_render :
    (render l source ts).toList.count '\n' =
      (ts.filter (l.keeps ·.2)).length +
        ((ts.filter (l.keeps ·.2)).map fun t => t.2.text.toList.count '\n').sum := by
  rw [toList_render, count_lines]
  simp only [count_line]

/-- There are as many line feeds as tokens that are kept exactly if no text of a token has one. -/
theorem count_render_eq_length_iff :
    (render l source ts).toList.count '\n' = (ts.filter (l.keeps ·.2)).length ↔
      ∀ t ∈ ts.filter (l.keeps ·.2), '\n' ∉ t.2.text.toList := by
  rw [toList_render, count_lines_eq_length_iff]
  simp only [lineFeed_mem_line_iff]

end Plain

/-! ### The dump -/

/-- **The dump has one line for each token, and the line tells the token.** Dump the tokens of a run
over any text, be it a complete one or one that a failure has stopped. Each token has its line, and at
no other place could a reader of lines break the dump. Two tokens with the same debugging text have the
same kind and the same payload, decimals the same in sign, coefficient and exponent; this holds for
all tokens, those that no text is lexed to included. -/
theorem dump_one_line_each :
    (∀ text : List Char,
      let ts := (TokenRun.ofText text).tokens
      let out := (dump text ts).toList
      out.count '\n' = ts.length ∧ (∀ c ∈ out, c ∈ lineBreaks → c = '\n') ∧
        out.splitOn '\n' = ts.map (fun t => (dumpLine text t).toList) ++ [[]]) ∧
    ∀ t u : Token, t.debugText = u.debugText → t.kind = u.kind ∧ t.payload = u.payload := by
  refine ⟨fun text => ?_, fun t u h => ?_⟩
  · intro ts out
    have hout : out = lines (fun t => (dumpLine text t).toList) ts := toList_join_lines _ _
    have hline : ∀ t ∈ ts, IsOneLine (dumpLine text t).toList := by
      intro t ht
      obtain ⟨l, hl⟩ := exists_spells_of_mem ht
      exact isOneLine_dumpLine text (Token.isOneLine_debugText hl)
    have hnone : ∀ t ∈ ts, '\n' ∉ (dumpLine text t).toList := fun t ht =>
      (hline t ht).lineFeed_notMem
    rw [hout]
    refine ⟨count_lines_eq_length_iff.2 hnone, fun c hc hbreak => ?_,
      splitOn_lines_of_notMem hnone⟩
    obtain ⟨t, ht, hmem⟩ := List.mem_flatMap.1 hc
    rcases List.mem_append.1 hmem with hmem | hmem
    · exact absurd hbreak (hline t ht c hmem)
    · exact List.mem_singleton.1 hmem
  · rw [Token.debugText_injective h]
    exact ⟨rfl, rfl⟩

/-- Two payloads with line ends make two lines, and a line feed is told from its escaped form. -/
theorem dump_one_line_each_of_line_ends :
    let text := "'\n' /*\r\x85*/".toList
    let ts := (TokenRun.ofText text).tokens
    ts.map (·.2) = [.char '\n', .comment "\r\x85"] ∧ (dump text ts).toList.count '\n' = 2 ∧
      (Token.string "a\nb").debugText ≠ (Token.string "a\\nb").debugText := by
  intro text ts
  have htokens : ts.map (·.2) = [.char '\n', .comment "\r\x85"] := by decide +kernel
  have hlength : ts.length = 2 := by rw [← List.length_map, htokens, List.length_cons,
    List.length_singleton]
  obtain ⟨hcount, -⟩ := dump_one_line_each.1 text
  refine ⟨htokens, hcount.trans hlength, fun h => ?_⟩
  exact absurd (dump_one_line_each.2 _ _ h).2 (by decide)

end Listing

end Lexis
