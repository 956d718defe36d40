import Lexis.Proofs.Pieces
import Lexis.Proofs.Session

/-! # Comments inside comments

The text behind an opening delimiter is cut into units from the left. A block comment ends at the
first closing unit before which the units are balanced, and nowhere else (`CommentUnit.Closes`); the
scan finds this end and stops right behind it, and finds nothing if there is no such unit
(`Ahead.blockComment_eq_found_iff`, `Ahead.blockComment_eq_none_iff`).

Balanced units stay balanced between an opening and a closing one, since from there on each beginning
of them is counted from a depth that is greater by one (`CommentUnit.IsBalanced.enclose`). So a comment
may be enclosed in another, together with text that holds no character of a delimiter
(`IsCommentText.enclose`). -/

namespace Lexis

namespace CommentUnit

/-! ### Balanced units -/

/-- What never closes more than is open does not do so with more open. -/
theorem NeverClosesFrom.mono {depth depth' : Nat} {us : List CommentUnit}
    (h : NeverClosesFrom depth us) (hle : depth ≤ depth') : NeverClosesFrom depth' us :=
  fun vs hvs => (h vs hvs).trans (Nat.add_le_add_left hle _)

/-- Behind units that never close more than is open, others are counted from the depth that they
leave. -/
theorem NeverClosesFrom.append {depth depth' : Nat} {us vs : List CommentUnit}
    (hus : NeverClosesFrom depth us) (hvs : NeverClosesFrom depth' vs)
    (h : depth + us.count .opening = depth' + us.count .closing) :
    NeverClosesFrom depth (us ++ vs) := by
  intro ws hws
  rcases List.prefix_or_prefix_of_prefix hws (List.prefix_append us vs) with hfront | ⟨ws, rfl⟩
  · exact hus ws hfront
  · have hle := hvs ws ((List.prefix_append_right_inj us).1 hws)
    rw [List.count_append, List.count_append]
    omega

theorem IsBalanced.append {us vs : List CommentUnit} (hus : IsBalanced us) (hvs : IsBalanced vs) :
    IsBalanced (us ++ vs) := by
  obtain ⟨hnever, hcount⟩ := hus
  obtain ⟨hnever', hcount'⟩ := hvs
  rw [neverCloses_iff] at hnever hnever'
  refine ⟨neverCloses_iff.2 (hnever.append hnever' (by omega)), ?_⟩
  rw [List.count_append, List.count_append, hcount, hcount']

/-- **Balanced units stay balanced between two delimiters.** -/
theorem IsBalanced.enclose {us : List CommentUnit} (h : IsBalanced us) :
    IsBalanced (.opening :: (us ++ [.closing])) := by
  obtain ⟨hnever, hcount⟩ := h
  -- inside the delimiters one more comment is open
  have hdeeper : NeverClosesFrom 1 us := (neverCloses_iff.1 hnever).mono (Nat.zero_le 1)
  have hclosing : NeverClosesFrom 1 [.closing] :=
    (neverClosesFrom_cons 0 rfl).2 (neverClosesFrom_nil 0)
  have hinside : NeverClosesFrom 1 (us ++ [.closing]) := hdeeper.append hclosing (by omega)
  refine ⟨neverCloses_iff.2 ((neverClosesFrom_cons 1 rfl).2 hinside), ?_⟩
  simp [hcount]

/-- Single characters are balanced. -/
theorem isBalanced_map_single (a : List Char) : IsBalanced (a.map .single) := by
  have hcount : ∀ us, us <+: a.map single →
      us.count .opening = 0 ∧ us.count .closing = 0 := by
    intro us hus
    have hsingle : ∀ u ∈ us, ∃ c, u = single c := by
      intro u hu
      obtain ⟨c, -, rfl⟩ := List.mem_map.1 (hus.subset hu)
      exact ⟨c, rfl⟩
    constructor
    · refine List.count_eq_zero.2 fun hmem => ?_
      obtain ⟨c, hc⟩ := hsingle _ hmem
      cases hc
    · refine List.count_eq_zero.2 fun hmem => ?_
      obtain ⟨c, hc⟩ := hsingle _ hmem
      cases hc
  refine ⟨fun vs hvs => ?_, ?_⟩
  · rw [(hcount vs hvs).2]
    exact Nat.zero_le _
  · rw [(hcount _ (List.prefix_refl _)).1, (hcount _ (List.prefix_refl _)).2]

/-! ### Cuts of composed texts -/

/-- The text holds no character of a delimiter. -/
def IsPlain (a : List Char) : Prop := ∀ c ∈ a, c ≠ '/' ∧ c ≠ '*'

/-- A text that holds no character of a delimiter is cut into its characters. -/
theorem cut_append_of_isPlain {a : List Char} (h : IsPlain a) (t : List Char) :
    cut (a ++ t) = a.map .single ++ cut t := by
  induction a with
  | nil => rfl
  | cons c a ih =>
    obtain ⟨hslash, hstar⟩ := h c (by simp)
    rw [List.cons_append, cut.eq_3 c (a ++ t) (fun _ hc _ => hslash hc) (fun _ hc _ => hstar hc),
      ih fun d hd => h d (by simp [hd])]
    rfl

/-- The units that follow others in a cut are the cut of their characters. -/
theorem cut_flatMap_of_suffix {t : List Char} {vs : List CommentUnit} (h : vs <:+ cut t) :
    cut (vs.flatMap chars) = vs := by
  -- either nothing comes before the units, or they follow others behind the first unit
  have hstep : ∀ {u : CommentUnit} {t t' : List Char}, cut t = u :: cut t' →
      (vs <:+ cut t' → cut (vs.flatMap chars) = vs) → vs <:+ cut t →
      cut (vs.flatMap chars) = vs := by
    intro u t t' hcut ih h
    rw [hcut] at h
    rcases List.suffix_cons_iff.1 h with rfl | h
    · rw [← hcut, flatMap_chars_cut]
    · exact ih h
  fun_induction cut t with
  | case1 t ih => exact hstep (cut.eq_1 t) ih (by rwa [cut.eq_1])
  | case2 t ih => exact hstep (cut.eq_2 t) ih (by rwa [cut.eq_2])
  | case3 c t ho hc ih => exact hstep (cut.eq_3 c t ho hc) ih (by rwa [cut.eq_3 c t ho hc])
  | case4 =>
    rw [List.suffix_nil.1 h]
    rfl

/-- The units of `r` are those of `x`, which are balanced, a closing delimiter, and those of `left`. -/
def Closes (r x left : List Char) : Prop :=
  ∃ us vs, cut r = us ++ .closing :: vs ∧ IsBalanced us ∧ x = us.flatMap chars ∧
    left = vs.flatMap chars

theorem closes_iff_closesAt {r x left : List Char} : Closes r x left ↔ ClosesAt 0 r x left := by
  constructor
  · rintro ⟨us, vs, hcut, hbalanced, rfl, rfl⟩
    have hvs : cut (vs.flatMap chars) = vs := by
      refine cut_flatMap_of_suffix (t := r) ?_
      rw [hcut]
      exact (List.suffix_cons _ vs).trans (List.suffix_append us _)
    exact ⟨us, by rw [hvs, hcut], isBalanced_iff.1 hbalanced, rfl⟩
  · rintro ⟨us, hcut, hbalanced, rfl⟩
    exact ⟨us, cut left, hcut, isBalanced_iff.2 hbalanced, rfl, (flatMap_chars_cut left).symm⟩

end CommentUnit

open CommentUnit

/-- **A comment may stand in another**, with text around it that holds no character of a
delimiter. -/
theorem IsCommentText.enclose {a x b : List Char} (hx : IsCommentText x) (ha : IsPlain a)
    (hb : IsPlain b) :
    IsCommentText (a ++ ['/', '*'] ++ x ++ ['*', '/'] ++ b) := by
  obtain ⟨us, hcut, hbalanced⟩ := hx
  refine ⟨a.map .single ++ (.opening :: (us ++ [.closing])) ++ b.map .single, ?_,
    ((isBalanced_map_single a).append hbalanced.enclose).append (isBalanced_map_single b)⟩
  have hinner : cut (x ++ (['*', '/'] ++ (b ++ ['*', '/']))) =
      us ++ .closing :: (b.map .single ++ [.closing]) := by
    rw [← List.append_assoc, cut_append _ _ us hcut, cut_append_of_isPlain hb]
    rfl
  have houter : cut (['/', '*'] ++ (x ++ (['*', '/'] ++ (b ++ ['*', '/'])))) =
      .opening :: cut (x ++ (['*', '/'] ++ (b ++ ['*', '/']))) := cut.eq_1 _
  simp only [List.append_assoc]
  rw [cut_append_of_isPlain ha, houter, hinner]
  simp

/-! ### The scan -/

namespace Ahead

variable {r x left : List Char}

theorem blockComment_eq_found_iff :
    blockComment r = .found (some (.comment (String.ofList x))) left ↔ Closes r x left := by
  rw [closes_iff_closesAt, ← commentText_eq_some_iff, blockComment]
  constructor
  · intro h
    injection h with htoken hleft
    obtain ⟨y, hy, htext⟩ := Option.map_eq_some_iff.1 htoken
    injection htext with htext
    rw [← String.ofList_injective htext]
    exact Prod.ext hy hleft
  · intro h
    rw [h]
    rfl

theorem blockComment_eq_none_iff :
    (∃ left, blockComment r = .found none left) ↔ ¬∃ x left, Closes r x left := by
  cases h : commentText 0 r with
  | mk text left =>
    cases text with
    | none =>
      have hnone : blockComment r = .found none left := by rw [blockComment, h]; rfl
      refine iff_of_true ⟨left, hnone⟩ ?_
      rintro ⟨x, left', hcloses⟩
      rw [blockComment_eq_found_iff.2 hcloses] at hnone
      cases hnone
    | some x =>
      have hcloses : Closes r x left := closes_iff_closesAt.2 (commentText_eq_some_iff.1 h)
      refine iff_of_false ?_ fun hnot => hnot ⟨x, left, hcloses⟩
      rintro ⟨left', hnone⟩
      rw [blockComment_eq_found_iff.2 hcloses] at hnone
      cases hnone

theorem whole_blockComment_eq_found_iff :
    whole ('/' :: '*' :: r) = .found (.comment (String.ofList x)) left ↔ Closes r x left := by
  rw [whole, Opening.blockComment.lexeme_eq, ← blockComment_eq_found_iff]
  cases blockComment r with
  | found o rest => cases o <;> simp
  | failed cause place rest => simp

theorem whole_blockComment_eq_failed_iff :
    (∃ left, whole ('/' :: '*' :: r) = .failed .noToken ('/' :: '*' :: r) left) ↔
      ¬∃ x left, Closes r x left := by
  rw [whole, Opening.blockComment.lexeme_eq, ← blockComment_eq_none_iff]
  cases h : blockComment r with
  | found o rest => cases o <;> simp
  | failed cause place rest => cases h

end Ahead

/-- A scan that comes to an outcome answers what it finds, and leaves what it leaves. -/
theorem Scan.Comes.eq_ok_iff {α : Type} {m : Scan α} {text ahead left : List Char} {o : Scanned α}
    {s : Stream} {a : α} (hm : m.Comes text ahead o) (hs : s.At text ahead) :
    (∃ s', m s = .ok a s' ∧ s'.unread = left) ↔ o = .found a left := by
  have h := hm s hs
  cases o with
  | found b rest =>
    obtain ⟨s', hs', hat⟩ := h
    rw [hs']
    constructor
    · rintro ⟨_, hok, rfl⟩
      injection hok with hb hstream
      rw [hb, ← hstream, hat.unread_eq]
    · intro heq
      injection heq with hb hrest
      rw [← hb, ← hrest]
      exact ⟨s', rfl, hat.unread_eq⟩
  | failed cause place rest =>
    obtain ⟨s', hs', -⟩ := h
    rw [hs']
    simp

/-! ### A comment alone in its text -/

/-- The spelling of a comment that opens with the delimiter of a block comment. -/
theorem Spells.exists_of_blockComment {l x tail : List Char}
    (h : Spells l (.comment (String.ofList x))) (hl : ['/', '*'] <+: l ++ tail) :
    IsCommentText x ∧ l = ['/', '*'] ++ x ++ ['*', '/'] := by
  generalize htoken : Token.comment (String.ofList x) = t at h
  cases h with
  | lineComment _ =>
    obtain ⟨more, hmore⟩ := hl
    injection hmore with _ hsecond
    injection hsecond with hchar _
    cases hchar
  | @blockComment y hy =>
    injection htoken with htext
    rw [String.ofList_injective htext]
    exact ⟨hy, rfl⟩
  | _ => cases htoken

/-- A text between two delimiters is lexed as one comment exactly when it is the text of a comment. -/
theorem tokenize_blockComment_iff {x : List Char} :
    tokenize (['/', '*'] ++ x ++ ['*', '/']) = .ok [.comment (String.ofList x)] ↔
      IsCommentText x := by
  constructor
  · intro h
    obtain ⟨ps, tail, -, htext, htokens⟩ := exists_pieces_of_tokenize h
    obtain ⟨p, rfl, htoken⟩ := List.map_eq_singleton_iff.1 htokens.symm
    have hspells : Spells p.lexeme (.comment (String.ofList x)) := htoken ▸ p.spells
    rw [Piece.text_cons, Piece.text_nil, List.append_nil] at htext
    cases hgap : p.gap with
    | nil =>
      rw [hgap, List.nil_append] at htext
      have hfront : ['/', '*'] <+: p.lexeme ++ tail := by
        rw [← htext, List.append_assoc]
        exact List.prefix_append _ _
      exact (hspells.exists_of_blockComment hfront).1
    | cons c gap =>
      rw [hgap] at htext
      injection htext with hchar _
      have hblank : CharClass.isBlank c = true := p.isGap c (by simp [hgap])
      rw [← hchar] at hblank
      cases hblank
  · intro h
    exact tokenize_of_spells (.blockComment h)

namespace Session

/-- **Block comments end exactly where they are balanced.** Let a session that requests reach on a
text stand in front of an opening delimiter, and let `r` be the text behind that. The scan of a block
comment finds the text `x` and leaves `left` exactly when the units of `r` are those of `x`, which
are balanced, a closing delimiter, and those of `left`; it finds nothing exactly when `r` is not so
made. A request for a token is answered by the comment in the one case, and refused for want of a
token in the other. Hence a comment may be enclosed in another, with text before and behind it that
holds no character of a delimiter. -/
theorem blockComment_ends_where_balanced :
    (∀ {text r : List Char} {s : Session}, Reachable text s → s.stream.unread = '/' :: '*' :: r →
      (∀ x left, (∃ s', Scan.blockComment s.stream = .ok (some (.comment (String.ofList x))) s' ∧
        s'.unread = left) ↔ Closes r x left) ∧
      ((∃ left s', Scan.blockComment s.stream = .ok none s' ∧ s'.unread = left) ↔
        ¬∃ x left, Closes r x left) ∧
      (∀ x left, (s.perform .token).1 = .ok (.token (.comment (String.ofList x))) ∧
        (s.perform .token).2.stream.unread = left ↔ Closes r x left) ∧
      ((s.perform .token).1 = .error (.lexing ⟨.noToken, s.stream.position⟩) ↔
        ¬∃ x left, Closes r x left)) ∧
    ∀ x a b : List Char,
      tokenize (['/', '*'] ++ x ++ ['*', '/']) = .ok [.comment (String.ofList x)] →
      IsPlain a → IsPlain b →
      tokenize (['/', '*'] ++ (a ++ ['/', '*'] ++ x ++ ['*', '/'] ++ b) ++ ['*', '/']) =
        .ok [.comment (String.ofList (a ++ ['/', '*'] ++ x ++ ['*', '/'] ++ b))] := by
  refine ⟨fun {text r s} hs hopen => ?_, fun x a b hx ha hb => ?_⟩
  · obtain ⟨ahead, hat⟩ := hs.exists_at
    obtain rfl : ahead = '/' :: '*' :: r := hat.unread_eq.symm.trans hopen
    have hbehind : Ahead.behindBlanks ('/' :: '*' :: r) = '/' :: '*' :: r := rfl
    have hscan : Scan.blockComment.Comes text ('/' :: '*' :: r) (Ahead.blockComment r) :=
      Scan.comes_blockComment '/' ('*' :: r)
    refine ⟨fun x left => ?_, ?_, fun x left => ?_, ?_⟩
    · exact (hscan.eq_ok_iff hat).trans Ahead.blockComment_eq_found_iff
    · simp only [hscan.eq_ok_iff hat]
      exact Ahead.blockComment_eq_none_iff
    · rw [perform_token_eq_ok_iff hat, hbehind]
      exact Ahead.whole_blockComment_eq_found_iff
    · rw [perform_token_eq_error_iff hat, hbehind, ← Ahead.whole_blockComment_eq_failed_iff]
      simp only [rejected_noToken_iff, Ahead.exists_whole_eq_failed_iff]
      rw [hat.position]
      simp
  · exact tokenize_blockComment_iff.2 ((tokenize_blockComment_iff.1 hx).enclose ha hb)

/-- Delimiters that overlap: the slash behind an opening delimiter closes nothing, be the comment on
its own or inside another. -/
theorem blockComment_ends_where_balanced_of_overlap :
    let text := "a/*/*/ */*/b".toList
    let s := ((ofStream (Stream.ofText text)).perform .token).2
    let x := "/*/ */".toList
    let y := "p/*/*/ */*/q".toList
    Reachable text s ∧ s.stream.unread = '/' :: '*' :: (x ++ "*/b".toList) ∧
      Closes (x ++ "*/b".toList) x ['b'] ∧
      (s.perform .token).1 = .ok (.token (.comment (String.ofList x))) ∧
      tokenize (['/', '*'] ++ x ++ ['*', '/']) = .ok [.comment (String.ofList x)] ∧
      IsPlain ['p'] ∧ IsPlain ['q'] ∧
      tokenize (['/', '*'] ++ y ++ ['*', '/']) = .ok [.comment (String.ofList y)] := by
  intro text s x y
  have hs : Reachable text s := .step .token .fresh
  have hopen : s.stream.unread = '/' :: '*' :: (x ++ "*/b".toList) := by decide +kernel
  have halone : tokenize (['/', '*'] ++ x ++ ['*', '/']) = .ok [.comment (String.ofList x)] := by
    decide +kernel
  have hp : IsPlain ['p'] := by simp [IsPlain]
  have hq : IsPlain ['q'] := by simp [IsPlain]
  obtain ⟨hends, hencloses⟩ := blockComment_ends_where_balanced
  obtain ⟨-, -, htoken, -⟩ := hends hs hopen
  have hanswer : (s.perform .token).1 = .ok (.token (.comment (String.ofList x))) ∧
      (s.perform .token).2.stream.unread = ['b'] := by decide +kernel
  exact ⟨hs, hopen, (htoken x ['b']).1 hanswer, hanswer.1, halone, hp, hq,
    hencloses x ['p'] ['q'] halone hp hq⟩

end Session

end Lexis
