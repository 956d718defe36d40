import Lexis.Proofs.Lexeme.Ahead
import Lexis.Token.Spelling
import Mathlib.Tactic.Common

/-! # Nested comments

The scan through a block comment keeps a count of the comments that are open inside it, and looks at
two characters at a time. The grammar cuts the whole text into units first and counts afterwards.
Both agree: the scan ends at the first unit that closes more than is open, and what it leaves is cut
as it was before (`commentText_eq_some_iff`); it ends nowhere when there is no such unit
(`commentText_eq_none_iff`). -/

namespace Lexis

namespace CommentUnit

/-! ### Cuts -/

theorem cut_injective {s t : List Char} (h : cut s = cut t) : s = t := by
  rw [← flatMap_chars_cut s, h, flatMap_chars_cut]

theorem cut_cons_cons {c d : Char} {t : List Char} (ho : c = '/' → d = '*' → False)
    (hc : c = '*' → d = '/' → False) : cut (c :: d :: t) = .single c :: cut (d :: t) := by
  refine cut.eq_3 c (d :: t) (fun rest hslash h => ?_) (fun rest hstar h => ?_)
  · injection h with hd _
    exact ho hslash hd
  · injection h with hd _
    exact hc hstar hd

/-- A cut goes on afresh behind a closing delimiter. -/
theorem cut_append (s rest : List Char) : ∀ us, cut s = us ++ [.closing] →
    cut (s ++ rest) = us ++ .closing :: cut rest := by
  fun_induction cut s with
  | case1 s ih =>
    intro us h
    cases us with
    | nil => cases h
    | cons u us =>
      injection h with hu hs
      rw [List.cons_append, List.cons_append, cut, ih us hs, ← hu]
      rfl
  | case2 s ih =>
    intro us h
    cases us with
    | nil =>
      injection h with _ hs
      rw [cut_injective (hs.trans cut.eq_4.symm)]
      rfl
    | cons u us =>
      injection h with hu hs
      rw [List.cons_append, List.cons_append, cut, ih us hs, ← hu]
      rfl
  | case3 c s ho hc ih =>
    intro us h
    cases us with
    | nil => cases h
    | cons u us =>
      injection h with hu hs
      -- the text behind `c` is not empty, so appending to it makes no delimiter of `c`
      cases s with
      | nil => simp [cut] at hs
      | cons d s =>
        rw [List.cons_append, cut.eq_3, ih us hs, ← hu]
        · rfl
        · intro _ hslash h
          injection h with hd _
          exact ho s hslash (by rw [hd])
        · intro _ hstar h
          injection h with hd _
          exact hc s hstar (by rw [hd])
  | case4 => intro us h; simp at h

/-- The characters of a cut, up to a closing delimiter, are cut in the same way by themselves. -/
theorem cut_flatMap (t : List Char) (vs : List CommentUnit) : ∀ us, cut t = us ++ .closing :: vs →
    cut (us.flatMap chars ++ ['*', '/']) = us ++ [.closing] := by
  fun_induction cut t with
  | case1 t ih =>
    intro us h
    cases us with
    | nil => cases h
    | cons u us =>
      injection h with hu ht
      rw [← hu]
      simp [chars, cut, ih us ht]
  | case2 t ih =>
    intro us h
    cases us with
    | nil => rfl
    | cons u us =>
      injection h with hu ht
      rw [← hu]
      simp [chars, cut, ih us ht]
  | case3 c t ho hc ih =>
    intro us h
    cases us with
    | nil => cases h
    | cons u us =>
      injection h with hu ht
      have hcut := ih us ht
      have happ : t = us.flatMap chars ++ ['*', '/'] ++ vs.flatMap chars := by
        rw [← flatMap_chars_cut t, ht]
        simp [chars]
      rw [← hu, List.flatMap_cons, chars, List.cons_append, List.nil_append, List.cons_append,
        cut.eq_3, hcut]
      · rfl
      · intro rest hslash h
        exact ho (rest ++ vs.flatMap chars) hslash (by rw [happ, h]; rfl)
      · intro rest hstar h
        exact hc (rest ++ vs.flatMap chars) hstar (by rw [happ, h]; rfl)
  | case4 => intro us h; simp at h

/-! ### Counting from a depth -/

/-- With `depth` comments open, no beginning of the units closes more than is open. -/
def NeverClosesFrom (depth : Nat) (us : List CommentUnit) : Prop :=
  ∀ vs, vs <+: us → vs.count .closing ≤ vs.count .opening + depth

/-- With `depth` comments open, the units close all that is open, and never more on the way. -/
def BalancedFrom (depth : Nat) (us : List CommentUnit) : Prop :=
  NeverClosesFrom depth us ∧ us.count .closing = us.count .opening + depth

theorem neverCloses_iff {us : List CommentUnit} : NeverCloses us ↔ NeverClosesFrom 0 us := Iff.rfl

theorem isBalanced_iff {us : List CommentUnit} : IsBalanced us ↔ BalancedFrom 0 us := by
  unfold IsBalanced BalancedFrom
  rw [neverCloses_iff, Nat.add_zero, eq_comm]

theorem neverClosesFrom_nil (depth : Nat) : NeverClosesFrom depth [] := by
  intro vs h
  rw [List.prefix_nil.1 h]
  simp

/-- Behind its first unit a list of units is counted from the depth that the unit leaves. -/
theorem neverClosesFrom_cons {depth : Nat} (depth' : Nat) {u : CommentUnit} {us : List CommentUnit}
    (h : depth + [u].count .opening = depth' + [u].count .closing) :
    NeverClosesFrom depth (u :: us) ↔ NeverClosesFrom depth' us := by
  constructor
  · intro hn vs hvs
    have hle := hn (u :: vs) (List.cons_prefix_cons.2 ⟨rfl, hvs⟩)
    rw [← List.singleton_append, List.count_append, List.count_append] at hle
    omega
  · intro hn vs hvs
    rcases List.prefix_cons_iff.1 hvs with rfl | ⟨ws, rfl, hws⟩
    · simp
    · have hle := hn ws hws
      rw [← List.singleton_append, List.count_append, List.count_append]
      omega

theorem balancedFrom_cons {depth : Nat} (depth' : Nat) {u : CommentUnit} {us : List CommentUnit}
    (h : depth + [u].count .opening = depth' + [u].count .closing) :
    BalancedFrom depth (u :: us) ↔ BalancedFrom depth' us := by
  unfold BalancedFrom
  rw [neverClosesFrom_cons depth' h, ← List.singleton_append, List.count_append, List.count_append]
  refine and_congr_right fun _ => ?_
  omega

/-- A closing delimiter where nothing is open closes more than is open. -/
theorem not_neverClosesFrom_closing (us : List CommentUnit) :
    ¬NeverClosesFrom 0 (.closing :: us) := by
  intro h
  have hle := h [.closing] (by simp)
  simp at hle

/-- The comments that are open at the beginning of `t` are closed behind `x`, in front of `rest`. -/
def ClosesAt (depth : Nat) (t x rest : List Char) : Prop :=
  ∃ us, cut t = us ++ .closing :: cut rest ∧ BalancedFrom depth us ∧ x = us.flatMap chars

/-- The first unit belongs to the text in front of the end, unless it is the end. -/
theorem closesAt_cons {depth : Nat} (depth' : Nat) {u : CommentUnit} {t t' x rest : List Char}
    (hcut : cut t = u :: cut t')
    (h : depth + [u].count .opening = depth' + [u].count .closing) :
    ClosesAt depth t x rest ↔ ∃ x', ClosesAt depth' t' x' rest ∧ u.chars ++ x' = x := by
  constructor
  · rintro ⟨us, hus, hb, rfl⟩
    rw [hcut] at hus
    cases us with
    | nil =>
      injection hus with hu _
      have hcount := hb.2
      subst hu
      simp at h hcount
      omega
    | cons u' us =>
      injection hus with hu hus
      subst hu
      exact ⟨us.flatMap chars, ⟨us, hus, (balancedFrom_cons depth' h).1 hb, rfl⟩, rfl⟩
  · rintro ⟨_, ⟨us, hus, hb, rfl⟩, rfl⟩
    exact ⟨u :: us, by rw [hcut, hus]; rfl, (balancedFrom_cons depth' h).2 hb, rfl⟩

theorem closesAt_closing {t x rest : List Char} :
    ClosesAt 0 ('*' :: '/' :: t) x rest ↔ x = [] ∧ rest = t := by
  constructor
  · rintro ⟨us, hus, hb, rfl⟩
    rw [cut] at hus
    cases us with
    | nil =>
      injection hus with _ hrest
      exact ⟨rfl, (cut_injective hrest).symm⟩
    | cons u us =>
      injection hus with hu _
      subst hu
      exact absurd hb.1 (not_neverClosesFrom_closing us)
  · rintro ⟨rfl, rfl⟩
    exact ⟨[], by rw [cut]; rfl, ⟨neverClosesFrom_nil 0, rfl⟩, rfl⟩

/-- No closing delimiter fits into one character. -/
theorem not_closesAt_of_length_le {depth : Nat} {t x rest : List Char} (h : t.length ≤ 1) :
    ¬ClosesAt depth t x rest := by
  rintro ⟨us, hus, -, -⟩
  have hlen := congrArg (fun vs => (vs.flatMap chars).length) hus
  simp only [flatMap_chars_cut, List.flatMap_append, List.flatMap_cons, List.length_append, chars,
    List.length_cons, List.length_nil] at hlen
  omega

/-- **Closing at the depth zero is what the grammar asks of the text of a comment.** -/
theorem closesAt_zero_iff {t x rest : List Char} :
    ClosesAt 0 t x rest ↔ t = x ++ '*' :: '/' :: rest ∧ IsCommentText x := by
  constructor
  · rintro ⟨us, hus, hb, rfl⟩
    refine ⟨?_, us, cut_flatMap t _ us hus, isBalanced_iff.2 hb⟩
    rw [← flatMap_chars_cut t, hus]
    simp [chars, flatMap_chars_cut]
  · rintro ⟨rfl, us, hus, hb⟩
    have hx : x ++ ['*', '/'] = us.flatMap chars ++ ['*', '/'] := by
      rw [← flatMap_chars_cut (x ++ ['*', '/']), hus]
      simp [chars]
    refine ⟨us, ?_, isBalanced_iff.1 hb, List.append_cancel_right hx⟩
    rw [← cut_append _ _ us hus, List.append_assoc]
    rfl

end CommentUnit

/-! ### The scan -/

namespace Ahead

open CommentUnit

theorem map_pair_eq_some_iff {inner : Option (List Char)} {behind x rest : List Char}
    {f : List Char → List Char} :
    (inner.map f, behind) = (some x, rest) ↔ ∃ x', (inner, behind) = (some x', rest) ∧ f x' = x := by
  cases inner <;> simp [and_comm]

/-- The scan tells closing delimiters apart by the depth, but takes a character by itself at every
depth alike. -/
theorem not_closing_of_depths {depth : Nat} {p : Prop} (h₀ : depth = 0 → p)
    (h : ∀ n, depth = Nat.succ n → p) : p := by
  cases depth with
  | zero => exact h₀ rfl
  | succ n => exact h n rfl

/-- **The scan ends at the first unit that closes more than is open.** -/
theorem commentText_eq_some_iff {depth : Nat} {t x rest : List Char} :
    commentText depth t = (some x, rest) ↔ ClosesAt depth t x rest := by
  fun_induction commentText depth t generalizing x with
  | case1 depth t inner behind hinner ih =>
    rw [closesAt_cons (depth + 1) (cut.eq_1 t) rfl]
    simp only [← ih, hinner]
    exact map_pair_eq_some_iff
  | case2 t =>
    rw [closesAt_closing]
    simp [eq_comm]
  | case3 depth t inner behind hinner ih =>
    rw [closesAt_cons depth (cut.eq_2 t) rfl]
    simp only [← ih, hinner]
    exact map_pair_eq_some_iff
  | case4 depth c d t ho hc₀ hc inner behind hinner ih =>
    have hcut := cut_cons_cons (t := t) ho (not_closing_of_depths hc₀ hc)
    rw [closesAt_cons depth hcut rfl]
    simp only [← ih, hinner]
    exact map_pair_eq_some_iff
  | case5 depth t ho hc₀ hc hpair =>
    have hlen : t.length ≤ 1 := by
      match t with
      | [] => simp
      | [_] => simp
      | c :: d :: t => exact absurd rfl (hpair c d t)
    simp [not_closesAt_of_length_le hlen]

/-- **The scan finds no end when no unit closes more than is open.** -/
theorem commentText_eq_none_iff {depth : Nat} {t : List Char} :
    (commentText depth t).1 = none ↔ NeverClosesFrom depth (cut t) := by
  fun_induction commentText depth t with
  | case1 depth t inner behind hinner ih =>
    rw [cut.eq_1, neverClosesFrom_cons (depth + 1) rfl, ← ih, hinner]
    exact Option.map_eq_none_iff
  | case2 t =>
    rw [cut.eq_2]
    simp [not_neverClosesFrom_closing]
  | case3 depth t inner behind hinner ih =>
    rw [cut.eq_2, neverClosesFrom_cons depth rfl, ← ih, hinner]
    exact Option.map_eq_none_iff
  | case4 depth c d t ho hc₀ hc inner behind hinner ih =>
    rw [cut_cons_cons ho (not_closing_of_depths hc₀ hc), neverClosesFrom_cons depth rfl, ← ih,
      hinner]
    exact Option.map_eq_none_iff
  | case5 depth t ho hc₀ hc hpair =>
    match t with
    | [] => simp [cut, neverClosesFrom_nil]
    | [c] => simp [cut, neverClosesFrom_cons depth, neverClosesFrom_nil]
    | c :: d :: t => exact absurd rfl (hpair c d t)

end Ahead

end Lexis
