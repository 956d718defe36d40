import Lexis.Text.Lines

/-! # Where a character stands

Lines and locations are found in two ways: `Lines.ofText` cuts the whole text, and `Location.walk`
counts the line ends on the way to an offset. The walk stops in front of its character, so it takes
the CR of a pair for a line end of its own if it stops between the two; the cut never does. They
agree on the characters that end no line: the location of such a character is the line and the
column where the cut has put it (`ofOffset_of_getElem?`). -/

namespace Lexis

open CharClass

namespace Lines

variable {c : Char} {rest : List Char}

theorem ofText_crlf (rest : List Char) : ofText ('\r' :: '\n' :: rest) = [] :: ofText rest := rfl

/-- A line end begins a new line, unless it is the first half of a pair. -/
theorem ofText_cons_of_isLineEnd (hc : isLineEnd c = true)
    (hpair : ∀ t, c = '\r' → rest ≠ '\n' :: t) : ofText (c :: rest) = [] :: ofText rest := by
  rw [ofText, if_pos hc]
  exact hpair

/-- Any other character belongs to the line that goes on behind it. -/
theorem ofText_cons_of_not_isLineEnd (hc : isLineEnd c = false) (rest : List Char) :
    ofText (c :: rest) = (ofText rest).modifyHead (c :: ·) := by
  rw [ofText, if_neg (Bool.eq_false_iff.1 hc)]
  rintro t rfl -
  cases hc

/-- **A line holds no line end.** -/
theorem isLineEnd_eq_false_of_mem {t : List Char} :
    ∀ shown ∈ ofText t, ∀ c ∈ shown, isLineEnd c = false := by
  fun_induction ofText t with
  | case1 => exact List.forall_mem_singleton.2 (List.forall_mem_nil _)
  | case2 rest ih => exact List.forall_mem_cons.2 ⟨List.forall_mem_nil _, ih⟩
  | case3 d rest _ _ ih => exact List.forall_mem_cons.2 ⟨List.forall_mem_nil _, ih⟩
  | case4 d rest _ hd ih =>
    obtain ⟨first, others, hlines⟩ := List.exists_cons_of_ne_nil (ofText_ne_nil rest)
    rw [hlines] at ih ⊢
    obtain ⟨hfirst, hothers⟩ := List.forall_mem_cons.1 ih
    have hlonger : ∀ c ∈ d :: first, isLineEnd c = false :=
      List.forall_mem_cons.2 ⟨Bool.eq_false_iff.2 hd, hfirst⟩
    exact List.forall_mem_cons.2 ⟨hlonger, hothers⟩

/-- The line `l` of the text has the character `c` at its index `k`. -/
def Stands (t : List Char) (l k : Nat) (c : Char) : Prop :=
  ∃ shown, (ofText t)[l]? = some shown ∧ shown[k]? = some c

theorem stands_zero (hc : isLineEnd c = false) (rest : List Char) : Stands (c :: rest) 0 0 c := by
  obtain ⟨first, others, hlines⟩ := List.exists_cons_of_ne_nil (ofText_ne_nil rest)
  rw [Stands, ofText_cons_of_not_isLineEnd hc, hlines]
  exact ⟨c :: first, rfl, rfl⟩

/-- In front of a line end that begins a new line, every line is one further down. -/
theorem Stands.of_lineEnd {t : List Char} {l k : Nat} (h : Stands rest l k c)
    (ht : ofText t = [] :: ofText rest) : Stands t (l + 1) k c := by
  rw [Stands, ht]
  exact h

/-- In front of another character, the first line is one longer. -/
theorem Stands.cons {d : Char} {l k : Nat} (h : Stands rest l k c) (hd : isLineEnd d = false) :
    Stands (d :: rest) l (if l = 0 then k + 1 else k) c := by
  obtain ⟨shown, hl, hk⟩ := h
  obtain ⟨first, others, hlines⟩ := List.exists_cons_of_ne_nil (ofText_ne_nil rest)
  rw [hlines] at hl
  rw [Stands, ofText_cons_of_not_isLineEnd hd, hlines]
  cases l with
  | zero =>
    cases hl
    exact ⟨d :: shown, rfl, hk⟩
  | succ l => exact ⟨shown, hl, hk⟩

end Lines

namespace Location

open Lines

/-- The location `l` lines below, `k` characters behind the start of the line, or behind `here` on
its own line. -/
def below (here : Location) (l k : Nat) : Location :=
  ⟨here.line + l, (if l = 0 then here.column else 1) + k⟩

@[simp] theorem below_zero_zero (here : Location) : here.below 0 0 = here := by
  simp [below]

/-- From the start of the next line, the lines are one further down. -/
theorem below_nextLine (here : Location) (l k : Nat) :
    (⟨here.line + 1, 1⟩ : Location).below l k = here.below (l + 1) k := by
  simp only [below, ite_self, Nat.add_one_ne_zero, if_false, Location.mk.injEq, and_true]
  omega

/-- From the next column, the characters of the line are one further on. -/
theorem below_nextColumn (here : Location) (l k : Nat) :
    (⟨here.line, here.column + 1⟩ : Location).below l k =
      here.below l (if l = 0 then k + 1 else k) := by
  simp only [below, Location.mk.injEq, true_and]
  split <;> omega

/-- The walk to a character that ends no line goes as many lines down, and as many characters on,
as the cut puts in front of it. -/
theorem exists_walk_eq {source : List Char} {n : Nat} {c : Char} (here : Location) :
    source[n]? = some c → isLineEnd c = false →
      ∃ l k, Stands source l k c ∧ walk here source n = here.below l k := by
  fun_induction walk here source n with
  | case1 source here =>
    intro hc hend
    obtain ⟨rest, rfl⟩ := List.head?_eq_some_iff.1 (List.head?_eq_getElem?.trans hc)
    exact ⟨0, 0, stands_zero hend rest, (below_zero_zero here).symm⟩
  | case2 =>
    intro hc
    cases hc
  | case3 here rest n ih =>
    intro hc hend
    obtain ⟨l, k, hstands, hwalk⟩ := ih hc hend
    exact ⟨l + 1, k, hstands.of_lineEnd (ofText_crlf rest), hwalk.trans (below_nextLine ..)⟩
  | case4 here d rest n hpair hd ih =>
    intro hc hend
    obtain ⟨l, k, hstands, hwalk⟩ := ih hc hend
    refine ⟨l + 1, k, hstands.of_lineEnd (ofText_cons_of_isLineEnd hd ?_),
      hwalk.trans (below_nextLine ..)⟩
    -- a walk that stops between the two halves of a pair stops in front of a line end
    rintro t rfl rfl
    cases n with
    | zero =>
      cases hc
      cases hend
    | succ n => exact hpair t n rfl rfl rfl
  | case5 here d rest n _ hd ih =>
    intro hc hend
    obtain ⟨l, k, hstands, hwalk⟩ := ih hc hend
    exact ⟨l, _, hstands.cons (Bool.eq_false_iff.2 hd), hwalk.trans (below_nextColumn ..)⟩

/-- **The location of a character that ends no line** is the line and the column where the cut has
put it, both counted from one. -/
theorem ofOffset_of_getElem? {source : List Char} {o : Nat} {c : Char} (hc : source[o]? = some c)
    (hend : isLineEnd c = false) :
    ∃ l k, Stands source l k c ∧ ofOffset source o = ⟨(l + 1 : Nat), (k + 1 : Nat)⟩ := by
  obtain ⟨l, k, hstands, hwalk⟩ := exists_walk_eq ⟨1, 1⟩ hc hend
  refine ⟨l, k, hstands, ?_⟩
  rw [ofOffset, if_neg (by omega), Int.toNat_natCast, hwalk]
  simp only [below, ite_self, Int.add_comm, Int.natCast_add, Int.cast_ofNat_Int]

end Location

end Lexis
