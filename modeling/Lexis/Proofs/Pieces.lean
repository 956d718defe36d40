import Lexis.Proofs.TokenRun

/-! # Texts made of gaps and spellings

A text that is lexed to its end is made of pieces, each a gap and a spelling of a token, with one more
gap behind the last (`Ahead.exists_pieces_of_run`). Nothing of the text is lost, and the position of a
token is reached by passing all that lies before its spelling.

The converse needs the pieces to stand apart (`Piece.Apart`): two spellings are separated by a blank,
and a line comment by a line feed. Then the run over their text finds their tokens
(`Piece.run_of_apart`). -/

namespace Lexis

open CharClass Run

/-- A spelling of a token behind a gap. -/
structure Piece where
  gap : List Char
  lexeme : List Char
  token : Token
  isGap : IsGap gap
  spells : Spells lexeme token

namespace Piece

/-- The text of the pieces. -/
def text (ps : List Piece) : List Char := ps.flatMap fun p => p.gap ++ p.lexeme

/-- The tokens of the pieces that follow `before`, each with the position of its spelling. -/
def located (before : List Char) : List Piece → List (Position × Token)
  | [] => []
  | p :: ps =>
    (Position.start.advance (before ++ p.gap), p.token) :: located (before ++ p.gap ++ p.lexeme) ps

theorem text_nil : text [] = [] := rfl

theorem text_cons (p : Piece) (ps : List Piece) :
    text (p :: ps) = p.gap ++ (p.lexeme ++ text ps) := by
  rw [text, List.flatMap_cons, List.append_assoc]
  rfl

end Piece

/-! ### From the text to the pieces -/

namespace Ahead

/-- A run that does not fail cuts its text into pieces. -/
theorem exists_pieces_of_run (t : List Char) : ∀ before : List Char, (run t).failure = none →
    ∃ ps tail, IsGap tail ∧ t = Piece.text ps ++ tail ∧
      (run t).tokens.map (TokenRun.locate (before ++ t)) = Piece.located before ps := by
  -- on the run; `before` grows by each piece, so the places stay those of the whole text
  induction t using run.induct with
  | case1 t rest hp =>
    intro before _
    obtain ⟨hgap, -⟩ := positioned?_eq_found_none_iff.1 hp
    rw [run_of_gap hgap]
    exact ⟨[], t, hgap, rfl, rfl⟩
  | case2 t p rest hp ih =>
    intro before hfail
    rw [run_of_found hp] at hfail ⊢
    obtain ⟨gap, rfl, hgap, l, hplace, hl, -⟩ := positioned?_eq_found_some_iff.1 hp
    obtain ⟨ps, tail, htail, hrest, htokens⟩ := ih (before ++ gap ++ l) hfail
    refine ⟨⟨gap, l, p.2, hgap, hl⟩ :: ps, tail, htail, ?_, ?_⟩
    · rw [Piece.text_cons, hplace, hrest, List.append_assoc, List.append_assoc]
    · have htext : before ++ gap ++ l ++ rest = before ++ (gap ++ p.1) := by
        rw [hplace, List.append_assoc, List.append_assoc]
      have hstart : TokenRun.locate (before ++ (gap ++ p.1)) p =
          (Position.start.advance (before ++ gap), p.2) := by
        rw [TokenRun.locate, ← List.append_assoc, Position.ofSuffix_append]
      rw [htext] at htokens
      rw [List.map_cons, htokens, hstart, Piece.located]
  | case3 t cause place rest hp =>
    intro before hfail
    rw [run_of_failed hp] at hfail
    cases hfail

end Ahead

theorem Piece.map_located (before : List Char) (ps : List Piece) :
    (located before ps).map (·.2) = ps.map token := by
  induction ps generalizing before with
  | nil => rfl
  | cons p ps ih => rw [located, List.map_cons, List.map_cons, ih]

/-- A text that is lexed to its end is made of pieces with its tokens. -/
theorem exists_pieces_of_tokenize {text : List Char} {ts : List Token}
    (h : tokenize text = .ok ts) :
    ∃ ps tail, IsGap tail ∧ text = Piece.text ps ++ tail ∧ ts = ps.map Piece.token := by
  obtain ⟨hfail, rfl⟩ := tokenize_eq_ok_iff.1 h
  obtain ⟨ps, tail, htail, htext, htokens⟩ := Ahead.exists_pieces_of_run text [] hfail
  refine ⟨ps, tail, htail, htext, ?_⟩
  rw [← Piece.map_located [], ← htokens, List.map_map]
  rfl

/-- **Lexing loses nothing.** A text that is lexed to its end is made of gaps and spellings of its
tokens, and each token is reported where its spelling begins. -/
theorem exists_pieces_of_positioned {text : List Char} {ts : List (Position × Token)}
    (h : (TokenRun.ofText text).positioned = .ok ts) :
    ∃ ps tail, IsGap tail ∧ text = Piece.text ps ++ tail ∧ (∀ p ∈ ps, p.lexeme ≠ []) ∧
      ts = Piece.located [] ps := by
  obtain ⟨hfail, rfl⟩ := TokenRun.positioned_eq_ok_iff.1 h
  obtain ⟨ps, tail, htail, htext, htokens⟩ := Ahead.exists_pieces_of_run text [] hfail
  exact ⟨ps, tail, htail, htext, fun p _ => p.spells.ne_nil, htokens⟩

/-- A signed number, a nested comment and a line comment, with a line end in between. -/
theorem exists_pieces_of_signed_number :
    (TokenRun.ofText " -1.5/*a/**/*/\r\n//x".toList).positioned =
        .ok [(⟨0, 1, 1, false⟩, .number (.finite true 15 (-1))),
          (⟨0, 5, 5, false⟩, .comment "a/**/"), (⟨1, 0, 16, true⟩, .comment "x")] ∧
      ∃ ps tail, IsGap tail ∧ " -1.5/*a/**/*/\r\n//x".toList = Piece.text ps ++ tail ∧
        (∀ p ∈ ps, p.lexeme ≠ []) ∧
        [(⟨0, 1, 1, false⟩, .number (.finite true 15 (-1))),
          (⟨0, 5, 5, false⟩, .comment "a/**/"), (⟨1, 0, 16, true⟩, .comment "x")] =
          Piece.located [] ps := by
  have h : (TokenRun.ofText " -1.5/*a/**/*/\r\n//x".toList).positioned =
      .ok [(⟨0, 1, 1, false⟩, .number (.finite true 15 (-1))),
        (⟨0, 5, 5, false⟩, .comment "a/**/"), (⟨1, 0, 16, true⟩, .comment "x")] := by
    decide +kernel
  exact ⟨h, exists_pieces_of_positioned h⟩

/-! ### From the pieces to the text -/

namespace Piece

/-- The spelling is a line comment. -/
def IsLineComment (p : Piece) : Prop := ['/', '/'] <+: p.lexeme

/-- The pieces stand apart: a gap between two of them is not empty, and behind a line comment it
begins with LF. The last gap, `tail`, may be empty. -/
structure Apart (ps : List Piece) (tail : List Char) : Prop where
  gaps : ps.IsChain fun _ q => q.gap ≠ []
  lines : ps.IsChain fun p q => p.IsLineComment → q.gap.head? = some '\n'
  isGap : IsGap tail
  line : ∀ p ∈ ps.getLast?, p.IsLineComment → tail = [] ∨ tail.head? = some '\n'

section Apart
variable {p : Piece} {ps : List Piece} {tail : List Char} (h : Apart (p :: ps) tail)
include h

theorem Apart.of_cons : Apart ps tail where
  gaps := h.gaps.of_cons
  lines := h.lines.of_cons
  isGap := h.isGap
  line := by
    intro q hq
    refine h.line q ?_
    cases ps with
    | nil => cases hq
    | cons p' ps => rwa [List.getLast?_cons_cons]

/-- What follows the first piece does not go on with its spelling. -/
theorem Apart.endsBefore : EndsBefore (goesOn p.lexeme) (text ps ++ tail) := by
  cases ps with
  | nil =>
    rw [text_nil, List.nil_append]
    refine endsBefore_goesOn (fun d hd => h.isGap d (List.mem_of_mem_head? hd)) fun hl d hd => ?_
    rcases h.line p rfl hl with htail | htail
    · rw [htail] at hd
      cases hd
    · rw [htail] at hd
      exact (Option.mem_some.1 hd).symm
  | cons q ps =>
    have hne : q.gap ≠ [] := (List.isChain_cons_cons.1 h.gaps).1
    have hhead : (text (q :: ps) ++ tail).head? = q.gap.head? := by
      rw [text_cons, List.append_assoc, List.head?_append_of_ne_nil _ hne]
    refine endsBefore_goesOn (fun d hd => ?_) fun hl d hd => ?_
    · rw [hhead] at hd
      exact q.isGap d (List.mem_of_mem_head? hd)
    · rw [hhead, (List.isChain_cons_cons.1 h.lines).1 hl] at hd
      exact (Option.mem_some.1 hd).symm

end Apart

/-- The run over pieces that stand apart finds their tokens. -/
theorem run_of_apart : ∀ {ps : List Piece} {tail : List Char}, Apart ps tail →
    (Ahead.run (text ps ++ tail)).failure = none ∧
      (Ahead.run (text ps ++ tail)).tokens.map (·.2) = ps.map token
  | [], tail, h => by
    have hrun : Ahead.run (text [] ++ tail) = ⟨[], none, []⟩ := Ahead.run_of_gap h.isGap
    rw [hrun]
    exact ⟨rfl, rfl⟩
  | p :: ps, tail, h => by
    obtain ⟨hfail, htokens⟩ := run_of_apart h.of_cons
    have hstands : StandsBefore (p.lexeme ++ (text ps ++ tail)) p.token (text ps ++ tail) :=
      ⟨p.lexeme, rfl, p.spells, h.endsBefore⟩
    rw [text_cons, List.append_assoc, List.append_assoc,
      Ahead.run_of_standsBefore p.isGap hstands]
    exact ⟨hfail, by rw [List.map_cons, htokens, List.map_cons]⟩

end Piece

/-- **Spelled tokens are lexed back**, if their spellings stand apart. -/
theorem tokenize_of_apart {ps : List Piece} {tail : List Char} (h : Piece.Apart ps tail) :
    tokenize (Piece.text ps ++ tail) = .ok (ps.map Piece.token) := by
  obtain ⟨hfail, htokens⟩ := Piece.run_of_apart h
  exact tokenize_eq_ok_iff.2 ⟨hfail, htokens.symm⟩

/-- A line comment, and behind a line feed a number that ends in its point. -/
theorem tokenize_of_apart_comment_number :
    ∃ ps tail, Piece.Apart ps tail ∧
      Piece.text ps ++ tail = ['/', '/', 'x', '\n', '-', '1', '.'] ∧
      tokenize (Piece.text ps ++ tail) = .ok [.comment "x", .number (.finite true 1 0)] := by
  have hcomment : Spells ['/', '/', 'x'] (.comment "x") := @Spells.lineComment ['x'] (by decide)
  have hnumeral : Numeral ['1', '.'] (.finite false 1 0) :=
    @Numeral.fractional ['1'] [] (by decide) (List.all_eq_true.1 rfl) (List.all_eq_true.1 rfl)
  have hnumber : Spells ['-', '1', '.'] (.number (.finite true 1 0)) :=
    @Spells.number ['-'] ['1', '.'] _ (by decide) hnumeral
  have hapart : Piece.Apart
      [⟨[], _, _, List.all_eq_true.1 rfl, hcomment⟩,
        ⟨['\n'], _, _, List.all_eq_true.1 rfl, hnumber⟩] [] :=
    ⟨by simp, by simp, List.all_eq_true.1 rfl, by simp⟩
  exact ⟨_, _, hapart, rfl, tokenize_of_apart hapart⟩

end Lexis
