import Lexis.Cursor
import Mathlib.Data.List.Basic
import Mathlib.Tactic.Common

/-! # Reads of a cursor compose

Reading with one count after the other comes to the same as reading once with their sum, where a
count below one counts for nothing (`TokenCursor.total`): both answer exactly if as many tokens
remain, both end at the same place, and the tokens of the single reads make up those of the one
(`TokenCursor.reads_compose`). All of this follows from what one read does (`read_eq_some_iff`), by
an induction on the counts: each read leaves a cursor further along the same list (`IsFurther`),
with as many tokens less ahead.

A position is checked when a cursor is made at it. The cursors that reads return never fail this
check. -/

namespace Lexis.TokenCursor

variable {c c' c'' : TokenCursor} {m n : Nat}

/-- The cursor `c'` is `n` tokens further along the list of `c`. -/
structure IsFurther (c : TokenCursor) (n : Nat) (c' : TokenCursor) : Prop where
  tokens : c'.tokens = c.tokens
  position : c'.position = c.position + n

namespace IsFurther

theorem refl (c : TokenCursor) : c.IsFurther 0 c := ⟨rfl, rfl⟩

theorem trans (h : c.IsFurther m c') (h' : c'.IsFurther n c'') : c.IsFurther (m + n) c'' where
  tokens := h'.tokens.trans h.tokens
  position := by rw [h'.position, h.position, Nat.add_assoc]

/-- One place in the list is only one cursor. -/
theorem unique (h : c.IsFurther n c') (h' : c.IsFurther n c'') : c' = c'' := by
  obtain ⟨tokens, position, hle⟩ := c'
  obtain ⟨tokens', position', hle'⟩ := c''
  obtain rfl : tokens = tokens' := h.tokens.trans h'.tokens.symm
  obtain rfl : position = position' := h.position.trans h'.position.symm
  rfl

theorem remaining (h : c.IsFurther n c') : n + c'.remaining = c.remaining := by
  have hle := c'.position_le
  rw [h.tokens, h.position] at hle
  rw [TokenCursor.remaining, TokenCursor.remaining, h.tokens, h.position]
  omega

/-- The tokens of two reads, of which the second goes on where the first has stopped. -/
theorem ahead_append (h : c.IsFurther m c') (n : Nat) :
    c.ahead m ++ c'.ahead n = c.ahead (m + n) := by
  rw [ahead, ahead, ahead, h.tokens, h.position, List.take_add, List.drop_drop]

/-- The check at the position further on is passed. -/
theorem at?_eq_ok (h : c.IsFurther n c') : at? c.tokens (c.position + n) = .ok c' := by
  obtain ⟨tokens, position, hle⟩ := c'
  obtain rfl : tokens = c.tokens := h.tokens
  obtain rfl : position = c.position + n := h.position
  exact dif_pos ⟨Int.natCast_nonneg _, hle⟩

end IsFurther

/-! ### One read -/

/-- **A read** moves the cursor over the tokens that it answers. -/
theorem read_eq_some_iff {k : Int} {slice : List Token} :
    c.read k = some (c', slice) ↔ c.IsFurther k.toNat c' ∧ slice = c.ahead k.toNat := by
  unfold read
  split
  · rename_i hle
    have hfurther : c.IsFurther k.toNat ⟨c.tokens, c.position + k.toNat, hle⟩ := ⟨rfl, rfl⟩
    simp only [Option.some.injEq, Prod.mk.injEq]
    constructor
    · rintro ⟨rfl, rfl⟩
      exact ⟨hfurther, rfl⟩
    · rintro ⟨h, rfl⟩
      exact ⟨hfurther.unique h, rfl⟩
  · rename_i hlt
    refine ⟨nofun, fun ⟨h, _⟩ => absurd ?_ hlt⟩
    rw [← h.tokens, ← h.position]
    exact c'.position_le

/-- A read answers none exactly if too few tokens remain. -/
theorem read_eq_none_iff {k : Int} : c.read k = none ↔ c.remaining < k.toNat := by
  have hle := c.position_le
  unfold read remaining
  split
  · simp only [reduceCtorEq, false_iff]
    omega
  · simp only [true_iff]
    omega

theorem exists_read_of_le {k : Int} (h : k.toNat ≤ c.remaining) :
    ∃ c', c.read k = some (c', c.ahead k.toNat) ∧ c.IsFurther k.toNat c' := by
  cases hread : c.read k with
  | none => exact absurd (read_eq_none_iff.1 hread) (Nat.not_lt.2 h)
  | some traversal =>
    obtain ⟨hfurther, hslice⟩ := read_eq_some_iff.1 hread
    exact ⟨traversal.1, by rw [← hslice], hfurther⟩

/-! ### Looking at what is ahead -/

/-- Looking ahead answers the tokens that a read would. -/
theorem lookAhead_eq_map_read (c : TokenCursor) (k : Int) :
    c.lookAhead k = (c.read k).map Prod.snd := by
  by_cases h : k.toNat ≤ c.remaining
  · obtain ⟨c', hread, -⟩ := exists_read_of_le h
    rw [lookAhead, if_pos h, hread, Option.map_some]
  · rw [lookAhead, if_neg h, read_eq_none_iff.2 (Nat.lt_of_not_le h), Option.map_none]

/-- The next token is the only one that looking ahead by one answers. -/
theorem lookAhead_one (c : TokenCursor) : c.lookAhead 1 = c.peek.map ([·]) := by
  rw [lookAhead, peek, ahead, remaining]
  by_cases h : c.position < c.tokens.length
  · have hone : (1 : Int).toNat ≤ c.tokens.length - c.position := Nat.le_sub_of_add_le' h
    rw [if_pos hone, List.getElem?_eq_getElem h, List.drop_eq_getElem_cons h]
    rfl
  · have hnone : ¬(1 : Int).toNat ≤ c.tokens.length - c.position := by
      show ¬1 ≤ _
      omega
    rw [if_neg hnone, List.getElem?_eq_none (Nat.le_of_not_lt h), Option.map_none]

theorem peek_eq_none_iff : c.peek = none ↔ c.atEnd = true := by
  have hle := c.position_le
  rw [peek, List.getElem?_eq_none_iff, atEnd, beq_iff_eq]
  omega

theorem atEnd_iff_read_one : c.atEnd = true ↔ c.read 1 = none := by
  have hle := c.position_le
  rw [read_eq_none_iff, atEnd, beq_iff_eq, remaining]
  show _ ↔ c.tokens.length - c.position < 1
  omega

/-! ### One read after the other -/

/-- The number of tokens that the counts ask for. A count below one asks for none. -/
def total : List Int → Nat
  | [] => 0
  | k :: ks => k.toNat + total ks

/-- Reads with one count after the other, each time from the cursor that the last read has returned:
the cursor behind all of them, and the tokens of each. None if one of the reads answers none. -/
def readAll (c : TokenCursor) : List Int → Option (TokenCursor × List (List Token))
  | [] => some (c, [])
  | k :: ks =>
    match c.read k with
    | none => none
    | some (c', slice) => (c'.readAll ks).map fun (last, slices) => (last, slice :: slices)

theorem total_append (front back : List Int) :
    total (front ++ back) = total front + total back := by
  induction front with
  | nil => exact (Nat.zero_add _).symm
  | cons k front ih => rw [List.cons_append, total, total, ih, Nat.add_assoc]

theorem readAll_cons_of_read {k : Int} {slice : List Token} (h : c.read k = some (c', slice))
    (ks : List Int) : c.readAll (k :: ks) =
      (c'.readAll ks).map fun (last, slices) => (last, slice :: slices) := by
  rw [readAll, h]

/-- Reads that answer move the cursor over all the tokens that they answer. -/
theorem isFurther_of_readAll {ks : List Int} {slices : List (List Token)}
    (h : c.readAll ks = some (c', slices)) :
    c.IsFurther (total ks) c' ∧ slices.flatten = c.ahead (total ks) := by
  induction ks generalizing c slices with
  | nil =>
    cases h
    exact ⟨.refl _, by simp [ahead, total]⟩
  | cons k ks ih =>
    cases hread : c.read k with
    | none => simp [readAll, hread] at h
    | some traversal =>
      obtain ⟨hfurther, hslice⟩ := read_eq_some_iff.1 hread
      rw [readAll_cons_of_read hread] at h
      obtain ⟨⟨last, rest⟩, hrest, heq⟩ := Option.map_eq_some_iff.1 h
      cases heq
      obtain ⟨hlater, hflat⟩ := ih hrest
      refine ⟨hfurther.trans hlater, ?_⟩
      rw [List.flatten_cons, hflat, hslice, hfurther.ahead_append, total]

/-- **Reads answer exactly if as many tokens remain** as they ask for together. -/
theorem isSome_readAll_iff {ks : List Int} :
    (c.readAll ks).isSome = true ↔ total ks ≤ c.remaining := by
  constructor
  · intro h
    obtain ⟨⟨last, slices⟩, hall⟩ := Option.isSome_iff_exists.1 h
    have hremaining := (isFurther_of_readAll hall).1.remaining
    omega
  · intro h
    induction ks generalizing c with
    | nil => rfl
    | cons k ks ih =>
      rw [total] at h
      obtain ⟨c', hread, hfurther⟩ := exists_read_of_le (c := c) (k := k) (by omega)
      have hremaining := hfurther.remaining
      rw [readAll_cons_of_read hread, Option.isSome_map]
      exact ih (by omega)

/-- **Reads of a cursor compose.** Let a cursor be made at a position in a list of tokens. It reads
with one count after the other without a refusal exactly if the counts, those below one left out,
add up to no more than the tokens that remain. Then the cursor behind the last read is the one at
the sum behind the position, which a single read of the sum returns too. The tokens of the reads
make up those of the single one, the piece of the list from the position on. Every cursor on the way
passes the check that is made of a position.

Looking ahead answers what a read would, and none where it would. The next token is the only one
that looking ahead by one answers, and there is none exactly at the end of the list, where also a
read of one token answers none. -/
theorem reads_compose {ts : List Token} {p : Int} (hstart : 0 ≤ p) (hend : p ≤ ts.length)
    (ks : List Int) :
    ∃ c, at? ts p = .ok c ∧
      ((c.readAll ks).isSome = true ↔ (total ks : Int) ≤ ts.length - p) ∧
      (∀ last slices, c.readAll ks = some (last, slices) →
        at? ts (p + total ks) = .ok last ∧ c.read (total ks) = some (last, slices.flatten) ∧
        slices.flatten = (ts.drop p.toNat).take (total ks) ∧
        ∀ front, front <+: ks → ∃ c' before,
          c.readAll front = some (c', before) ∧ at? ts (p + total front) = .ok c') ∧
      (∀ k, c.lookAhead k = (c.read k).map Prod.snd) ∧
      c.lookAhead 1 = c.peek.map ([·]) ∧
      (c.peek = none ↔ c.atEnd = true) ∧
      (c.atEnd = true ↔ c.read 1 = none) := by
  obtain ⟨n, rfl⟩ := Int.eq_ofNat_of_zero_le hstart
  have hle : n ≤ ts.length := Int.ofNat_le.1 hend
  let c : TokenCursor := ⟨ts, n, hle⟩
  have hc : at? ts n = .ok c := (IsFurther.refl c).at?_eq_ok
  have hremaining : ((c.remaining : Nat) : Int) = ts.length - n := Int.ofNat_sub hle
  refine ⟨c, hc, ?_, fun last slices hall => ?_, c.lookAhead_eq_map_read, c.lookAhead_one,
    peek_eq_none_iff, atEnd_iff_read_one⟩
  · rw [isSome_readAll_iff, ← hremaining, Int.ofNat_le]
  · obtain ⟨hfurther, hflat⟩ := isFurther_of_readAll hall
    refine ⟨hfurther.at?_eq_ok, read_eq_some_iff.2 ⟨hfurther, hflat⟩, hflat, fun front hfront => ?_⟩
    obtain ⟨back, rfl⟩ := hfront
    have hfits : total (front ++ back) ≤ c.remaining := isSome_readAll_iff.1 (by rw [hall]; rfl)
    have hfront : total front ≤ c.remaining := by
      rw [total_append] at hfits
      exact Nat.le_of_add_right_le hfits
    obtain ⟨⟨c', before⟩, hbefore⟩ := Option.isSome_iff_exists.1 (isSome_readAll_iff.2 hfront)
    exact ⟨c', before, hbefore, (isFurther_of_readAll hbefore).1.at?_eq_ok⟩

/-- From the second of four tokens to the end, by counts of two and one between counts that ask for
nothing. -/
theorem reads_compose_to_end :
    let ts : List Token := [.identifier "a", .boolean true, .operator .add, .char 'c']
    (0 : Int) ≤ 1 ∧ (1 : Int) ≤ ts.length ∧ ∃ c last slices, at? ts 1 = .ok c ∧
      c.readAll [0, 2, -3, 1] = some (last, slices) ∧ at? ts 4 = .ok last ∧
      c.read 3 = some (last, slices.flatten) ∧
      slices.flatten = [.boolean true, .operator .add, .char 'c'] := by
  intro ts
  have hend : (1 : Int) ≤ ts.length := by decide
  obtain ⟨c, hc, hfits, hall, -⟩ := reads_compose Int.one_nonneg hend [0, 2, -3, 1]
  obtain ⟨⟨last, slices⟩, hsome⟩ := Option.isSome_iff_exists.1 (hfits.2 (by decide))
  obtain ⟨hlast, hread, hslices, -⟩ := hall last slices hsome
  exact ⟨Int.one_nonneg, hend, c, last, slices, hc, hsome, hlast, hread, hslices⟩

end Lexis.TokenCursor
