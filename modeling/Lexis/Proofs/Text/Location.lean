import Lexis.Diagnostic.Report
import Lexis.Proofs.Text.Lines
import Mathlib.Data.List.Basic
import Mathlib.Tactic.Common

/-! # Locations among the lines

The location of an offset says how many lines the text in front of it has, and how long the last of
them is (`Location.ofOffset_of_take`). Cut off somewhere, a text has the lines that it has in full,
up to the one in which it is cut (`Lines.exists_ofText_append`). This holds between the halves of a
CR LF pair too: there the CR has ended a line, the next line is empty so far, and the LF neither
lengthens it nor begins another. This is the only place at which a text can be made longer without a
change to its lines.

So every location lies in a line of the whole text or right behind it, and a later offset has a
later location, except on the two sides of a LF that completes a pair
(`Location.ofOffset_among_lines`). -/

namespace Lexis

open CharClass

namespace Lines

/-! ### The lines of a longer text -/

theorem ofText_eq_singleton_nil_iff {t : List Char} : ofText t = [[]] ↔ t = [] := by
  fun_cases ofText t with
  | case1 => simp
  | case2 rest => simp [ofText_ne_nil]
  | case3 c rest => simp [ofText_ne_nil]
  | case4 c rest =>
    obtain ⟨first, others, hlines⟩ := List.exists_cons_of_ne_nil (ofText_ne_nil rest)
    simp [hlines]

/-- Behind `p`, the text `q` makes no difference to the lines: it is empty, or the second half of a
pair. -/
def Spares (p q : List Char) : Prop := q = [] ∨ p.getLast? = some '\r' ∧ q = ['\n']

theorem spares_cons_iff {c : Char} {p q : List Char} (h : p = [] → c = '\r' → q ≠ ['\n']) :
    Spares (c :: p) q ↔ Spares p q := by
  cases p with
  | nil =>
    constructor
    · rintro (hq | ⟨hc, hq⟩)
      · exact Or.inl hq
      · exact absurd hq (h rfl (Option.some.inj hc))
    · rintro (hq | ⟨hc, -⟩)
      · exact Or.inl hq
      · cases hc
  | cons d p => simp [Spares]

/-- **What stands behind a text goes on in its last line.** The lines in front of that one are there
to stay, whatever follows. -/
theorem exists_ofText_append (p q : List Char) : ∃ front last more rest,
    ofText p = front ++ [last] ∧ ofText (p ++ q) = front ++ (last ++ more) :: rest ∧
      (more = [] ∧ rest = [] ↔ Spares p q) := by
  fun_induction ofText p with
  | case1 =>
    obtain ⟨first, others, hlines⟩ := List.exists_cons_of_ne_nil (ofText_ne_nil q)
    refine ⟨[], [], first, others, rfl, hlines, ?_⟩
    have hnone := ofText_eq_singleton_nil_iff (t := q)
    rw [hlines] at hnone
    simpa [Spares] using hnone
  | case2 p ih =>
    obtain ⟨front, last, more, rest, hp, hpq, hspares⟩ := ih
    refine ⟨[] :: front, last, more, rest, by rw [hp]; rfl, ?_, ?_⟩
    · rw [List.cons_append, List.cons_append, ofText_crlf, hpq]
      rfl
    · rw [spares_cons_iff (by simp), spares_cons_iff (by simp), hspares]
  | case3 c p hpair hc ih =>
    obtain ⟨front, last, more, rest, hp, hpq, hspares⟩ := ih
    by_cases hhalf : p = [] ∧ c = '\r' ∧ q.head? = some '\n'
    · -- the text is cut between the halves of a pair
      obtain ⟨rfl, rfl, hhead⟩ := hhalf
      obtain ⟨q, rfl⟩ := List.head?_eq_some_iff.1 hhead
      obtain ⟨first, others, hlines⟩ := List.exists_cons_of_ne_nil (ofText_ne_nil q)
      refine ⟨[[]], [], first, others, rfl, ?_, ?_⟩
      · rw [List.cons_append, List.nil_append, ofText_crlf, hlines]
        rfl
      · have hnone := ofText_eq_singleton_nil_iff (t := q)
        rw [hlines] at hnone
        simpa [Spares] using hnone
    · refine ⟨[] :: front, last, more, rest, by rw [hp]; rfl, ?_, ?_⟩
      · rw [List.cons_append, ofText_cons_of_isLineEnd hc, hpq]
        · rfl
        · rintro t rfl ht
          cases p with
          | nil => exact hhalf ⟨rfl, rfl, by rw [← List.nil_append q, ht]; rfl⟩
          | cons d p =>
            injection ht with hd
            exact hpair p rfl (by rw [hd])
      · rw [spares_cons_iff, hspares]
        rintro hnil rfl rfl
        exact hhalf ⟨hnil, rfl, rfl⟩
  | case4 c p _ hc ih =>
    obtain ⟨front, last, more, rest, hp, hpq, hspares⟩ := ih
    have hfalse := Bool.eq_false_iff.2 hc
    have hsame : Spares (c :: p) q ↔ Spares p q :=
      spares_cons_iff (by rintro - rfl; exact absurd rfl hc)
    rw [List.cons_append, ofText_cons_of_not_isLineEnd hfalse, hp, hpq]
    cases front with
    | nil => exact ⟨[], c :: last, more, rest, rfl, rfl, hspares.trans hsame.symm⟩
    | cons first front =>
      exact ⟨(c :: first) :: front, last, more, rest, rfl, rfl, hspares.trans hsame.symm⟩

end Lines

namespace Location

open Lines

/-! ### Locations and the lines in front -/

/-- **The walk along the front of a text** goes as many lines down as the front has line ends, and
as many characters on as its last line has. -/
theorem exists_ofText_take (here : Location) (t : List Char) (n : Nat) : ∃ front last,
    ofText (t.take n) = front ++ [last] ∧ walk here t n = here.below front.length last.length := by
  fun_induction walk here t n with
  | case1 t here => exact ⟨[], [], rfl, (below_zero_zero here).symm⟩
  | case2 here => exact ⟨[], [], by rw [List.take_nil]; rfl, (below_zero_zero here).symm⟩
  | case3 here rest n ih =>
    obtain ⟨front, last, htake, hwalk⟩ := ih
    refine ⟨[] :: front, last, ?_, hwalk.trans (below_nextLine ..)⟩
    rw [List.take_succ_cons, List.take_succ_cons, ofText_crlf, htake]
    rfl
  | case4 here d rest n hpair hd ih =>
    obtain ⟨front, last, htake, hwalk⟩ := ih
    refine ⟨[] :: front, last, ?_, hwalk.trans (below_nextLine ..)⟩
    rw [List.take_succ_cons, ofText_cons_of_isLineEnd hd, htake]
    · rfl
    · -- the second half of a pair would have been passed with the first
      rintro t rfl ht
      cases n with
      | zero => cases ht
      | succ n =>
        obtain ⟨e, rest, rfl⟩ : ∃ e u, rest = e :: u := by
          cases rest with
          | nil => cases ht
          | cons e u => exact ⟨e, u, rfl⟩
        injection ht with he
        exact hpair rest n rfl (by rw [he]) rfl
  | case5 here d rest n _ hd ih =>
    obtain ⟨front, last, htake, hwalk⟩ := ih
    rw [List.take_succ_cons, ofText_cons_of_not_isLineEnd (Bool.eq_false_iff.2 hd), htake]
    cases front with
    | nil => exact ⟨[], d :: last, rfl, hwalk.trans (below_nextColumn ..)⟩
    | cons first front =>
      exact ⟨(d :: first) :: front, last, rfl, hwalk.trans (below_nextColumn ..)⟩

/-- **The location of an offset** counts the lines in front of it, and the characters in the last of
them, both from one. -/
theorem ofOffset_of_take {source : List Char} {o : Nat} {front : List (List Char)}
    {last : List Char} (h : ofText (source.take o) = front ++ [last]) :
    ofOffset source o = ⟨(front.length + 1 : Nat), (last.length + 1 : Nat)⟩ := by
  obtain ⟨front', last', htake, hwalk⟩ := exists_ofText_take ⟨1, 1⟩ source o
  obtain ⟨rfl, hlast⟩ := List.append_inj' (htake.symm.trans h) rfl
  obtain rfl : last' = last := by injection hlast
  rw [ofOffset, if_neg (by omega), Int.toNat_natCast, hwalk]
  simp only [below, ite_self, Int.add_comm, Int.natCast_add, Int.cast_ofNat_Int]

/-- The one location stands in front of the other, in an earlier line or further left in its line. -/
def Precedes (a b : Location) : Prop := a.line < b.line ∨ a.line = b.line ∧ a.column < b.column

/-- The offset `o` is that of the second half of a CR LF pair. -/
def IsInPair (source : List Char) (o : Nat) : Prop :=
  ∃ k, o = k + 1 ∧ source[k]? = some '\r' ∧ source[k + 1]? = some '\n'

/-- What stands between two offsets spares the lines in front of it exactly if it is the second half
of a pair. -/
theorem spares_iff {source : List Char} {o₁ o₂ : Nat} (hlt : o₁ < o₂) (hle : o₂ ≤ source.length) :
    Spares (source.take o₁) ((source.take o₂).drop o₁) ↔ IsInPair source o₁ ∧ o₂ = o₁ + 1 := by
  have hlength : ((source.take o₂).drop o₁).length = o₂ - o₁ := by
    rw [List.length_drop, List.length_take, Nat.min_eq_left hle]
  have hne : (source.take o₂).drop o₁ ≠ [] := List.ne_nil_of_length_pos (by omega)
  have hhead : ((source.take o₂).drop o₁).head? = source[o₁]? := by
    rw [List.head?_drop, List.getElem?_take_of_lt hlt]
  constructor
  · rintro (hq | ⟨hlast, hq⟩)
    · exact absurd hq hne
    · rw [hq, List.length_singleton] at hlength
      rw [hq, List.head?_cons] at hhead
      obtain ⟨k, rfl⟩ : ∃ k, o₁ = k + 1 := by
        cases o₁ with
        | zero => cases hlast
        | succ k => exact ⟨k, rfl⟩
      rw [List.getLast?_take, if_neg (Nat.succ_ne_zero k), Nat.add_sub_cancel] at hlast
      have hk : k < source.length := by omega
      rw [List.getElem?_eq_getElem hk, Option.some_or] at hlast
      exact ⟨⟨k, rfl, by rw [List.getElem?_eq_getElem hk, hlast], hhead.symm⟩, by omega⟩
  · rintro ⟨⟨k, rfl, hcr, hlf⟩, rfl⟩
    refine Or.inr ⟨?_, ?_⟩
    · rw [List.getLast?_take, if_neg (Nat.succ_ne_zero k), Nat.add_sub_cancel, hcr, Option.some_or]
    · obtain ⟨d, hd⟩ := List.length_eq_one_iff.1 (hlength.trans (Nat.add_sub_cancel_left ..))
      rw [hd, List.head?_cons, hlf] at hhead
      rw [hd, Option.some.inj hhead]

/-- A location lies in a line of the whole text, or right behind it. -/
theorem exists_ofOffset_eq (source : List Char) (o : Nat) : ∃ l c shown,
    ofOffset source o = ⟨(l + 1 : Nat), (c + 1 : Nat)⟩ ∧ (ofText source)[l]? = some shown ∧
      c ≤ shown.length := by
  obtain ⟨front, last, more, rest, htake, hlines, -⟩ :=
    exists_ofText_append (source.take o) (source.drop o)
  rw [List.take_append_drop] at hlines
  refine ⟨front.length, last.length, last ++ more, ofOffset_of_take htake, ?_, ?_⟩
  · rw [hlines, List.getElem?_append_right (Nat.le_refl _), Nat.sub_self, List.getElem?_cons_zero]
  · rw [List.length_append]
    exact Nat.le_add_right ..

/-- An offset at the end of the text, or past it, has the location behind the last line. -/
theorem ofOffset_of_length_le {source : List Char} {o : Nat} (h : source.length ≤ o) :
    ofOffset source o = ⟨(ofText source).length,
      (((ofText source).getLast (ofText_ne_nil source)).length + 1 : Nat)⟩ := by
  have hall : ofText (source.take o) =
      (ofText source).dropLast ++ [(ofText source).getLast (ofText_ne_nil source)] := by
    rw [List.take_of_length_le h, List.dropLast_concat_getLast]
  have hpos := List.length_pos_of_ne_nil (ofText_ne_nil source)
  rw [ofOffset_of_take hall, List.length_dropLast, Nat.sub_add_cancel hpos]

/-- **A later offset has a later location**, or else nothing but the second half of a pair stands
between the two. -/
theorem precedes_of_lt {source : List Char} {o₁ o₂ : Nat} (hlt : o₁ < o₂)
    (hle : o₂ ≤ source.length) :
    (IsInPair source o₁ ∧ o₂ = o₁ + 1 → ofOffset source o₁ = ofOffset source o₂) ∧
      (¬(IsInPair source o₁ ∧ o₂ = o₁ + 1) →
        (ofOffset source o₁).Precedes (ofOffset source o₂)) := by
  rw [← spares_iff hlt hle]
  obtain ⟨front, last, more, rest, h₁, h₂, hspares⟩ :=
    exists_ofText_append (source.take o₁) ((source.take o₂).drop o₁)
  have hsplit : source.take o₁ ++ (source.take o₂).drop o₁ = source.take o₂ := by
    have htake : source.take o₁ = (source.take o₂).take o₁ := by
      rw [List.take_take, Nat.min_eq_left (Nat.le_of_lt hlt)]
    rw [htake, List.take_append_drop]
  rw [hsplit] at h₂
  rw [← hspares, ofOffset_of_take h₁]
  rcases List.eq_nil_or_concat rest with rfl | ⟨rest, lowest, rfl⟩
  · rw [ofOffset_of_take h₂, List.length_append]
    refine ⟨fun ⟨hmore, _⟩ => by rw [hmore]; rfl, fun hmore => Or.inr ⟨rfl, ?_⟩⟩
    have hpos : 0 < more.length := List.length_pos_of_ne_nil fun hnil => hmore ⟨hnil, rfl⟩
    show ((last.length + 1 : Nat) : Int) < (last.length + more.length + 1 : Nat)
    omega
  · have h₂' : ofText (source.take o₂) = (front ++ (last ++ more) :: rest) ++ [lowest] := by
      rw [h₂]
      simp
    rw [ofOffset_of_take h₂']
    refine ⟨fun ⟨_, hrest⟩ => by simp at hrest, fun _ => Or.inl ?_⟩
    show ((front.length + 1 : Nat) : Int) < ((front ++ (last ++ more) :: rest).length + 1 : Nat)
    rw [List.length_append, List.length_cons]
    omega

/-- **Locations among the lines.** Take any text and its lines. The location of an offset lies in
one of the lines, on a character or right behind the last one, so a report finds that line. An
offset at the end of the text or past it has the location behind the last line. Of two offsets in
the text, the later one has the later location, unless the earlier is that of a LF that completes a
pair and the later follows upon it: these two have the same. -/
theorem ofOffset_among_lines (source : List Char) :
    let lines := ofText source
    (∀ o : Nat, ∃ (l c : Nat) (shown : List Char), ofOffset source o = ⟨l, c⟩ ∧
      1 ≤ l ∧ l ≤ lines.length ∧ lines[l - 1]? = some shown ∧
      Report.lineText source l = shown ∧ 1 ≤ c ∧ c ≤ shown.length + 1) ∧
    (∀ o : Nat, source.length ≤ o → ofOffset source o =
      ⟨lines.length, ((lines.getLast (ofText_ne_nil source)).length + 1 : Nat)⟩) ∧
    ∀ o₁ o₂ : Nat, o₁ < o₂ → o₂ ≤ source.length →
      (IsInPair source o₁ ∧ o₂ = o₁ + 1 → ofOffset source o₁ = ofOffset source o₂) ∧
      (¬(IsInPair source o₁ ∧ o₂ = o₁ + 1) →
        (ofOffset source o₁).Precedes (ofOffset source o₂)) := by
  intro lines
  refine ⟨fun o => ?_, fun o => ofOffset_of_length_le, fun o₁ o₂ => precedes_of_lt⟩
  obtain ⟨l, c, shown, hhere, hshown, hc⟩ := exists_ofOffset_eq source o
  have hl : l < lines.length := (List.getElem?_eq_some_iff.1 hshown).1
  refine ⟨l + 1, c + 1, shown, hhere, Nat.le_add_left .., hl, hshown, ?_, Nat.le_add_left ..,
    Nat.succ_le_succ hc⟩
  rw [Report.lineText, if_neg (by omega)]
  simp [List.getD_eq_getElem?_getD, hshown]

/-- Around a CR LF pair and behind it: the halves are told apart, the end of the pair is not. -/
theorem ofOffset_among_lines_of_pair :
    let source := "a\r\n\r".toList
    ofText source = [['a'], [], []] ∧ ofOffset source (9 : Nat) = ⟨3, 1⟩ ∧
      ofOffset source (2 : Nat) = ofOffset source (3 : Nat) ∧
      (ofOffset source (1 : Nat)).Precedes (ofOffset source (2 : Nat)) ∧
      (ofOffset source (3 : Nat)).Precedes (ofOffset source (4 : Nat)) := by
  intro source
  have hpair : IsInPair source 2 := ⟨1, rfl, by decide, by decide⟩
  obtain ⟨-, hend, horder⟩ := ofOffset_among_lines source
  refine ⟨by decide, hend 9 (by decide), (horder 2 3 (by decide) (by decide)).1 ⟨hpair, rfl⟩,
    (horder 1 2 (by decide) (by decide)).2 ?_, (horder 3 4 (by decide) (by decide)).2 ?_⟩
  · rintro ⟨⟨k, hk, hcr, -⟩, -⟩
    obtain rfl : k = 0 := by omega
    cases hcr
  · rintro ⟨⟨k, hk, hcr, -⟩, -⟩
    obtain rfl : k = 2 := by omega
    cases hcr

end Location

end Lexis
