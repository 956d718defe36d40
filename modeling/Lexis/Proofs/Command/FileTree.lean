import Lexis.Command.FileTree
import Mathlib.Data.List.Infix

/-! # A written file is the only change to a tree

A path is followed through directories only, so everything above the place where it stops is a
directory (`FileTree.reached_of_locate`). The directories on the way to a new file are therefore there
before the file is, and no other place shows that it has been written (`FileTree.node?_write_of_ne`).
So a tree gains the file and nothing else (`FileTree.gains_write`). -/

namespace Lexis.FileTree

variable {t : FileTree} {p : Path} {place : Place}

/-! ### Where a path leads -/

/-- Everything above a place of the tree is a directory. -/
def Reached (t : FileTree) : Place → Prop
  | .inside names =>
    ∀ above, above <+: names → above.length < names.length → t.find? above = some .directory
  | _ => True

/-- A place of the tree is entered from the directory above it, or left behind through `..`. -/
theorem exists_of_enter_eq_inside {n : String} {names : List String}
    (h : place.enter n = .inside names) :
    ∃ before, place = .inside before ∧ (names = before.dropLast ∨ names = before ++ [n]) := by
  unfold Place.enter at h
  split at h
  case h_2 before _ => exact ⟨before, rfl, .inl (Place.inside.inj h).symm⟩
  case h_3 before _ _ => exact ⟨before, rfl, .inr (Place.inside.inj h).symm⟩
  all_goals cases h

theorem reached_root : Reached t (.inside []) :=
  fun above _ hlength => absurd hlength (Nat.not_lt_zero above.length)

/-- **One name.** -/
theorem Reached.enter (h : Reached t place) (hplace : t.node? place = some .directory) (n : String) :
    Reached t (place.enter n) := by
  cases hnext : place.enter n with
  | inside names =>
    intro above hbegins hlength
    obtain ⟨before, rfl, rfl | rfl⟩ := exists_of_enter_eq_inside hnext
    · have hbefore := List.dropLast_prefix before
      exact h above (hbegins.trans hbefore) (hlength.trans_le hbefore.length_le)
    · rcases List.prefix_concat_iff.1 hbegins with rfl | hbefore
      · exact absurd hlength (lt_irrefl _)
      · rcases hbefore.length_le.lt_or_eq with hlt | heq
        · exact h above hbefore hlt
        · rw [hbefore.eq_of_length heq]
          exact hplace
  | above => trivial
  | system names => trivial
  | nowhere => trivial

/-- **A sequence of names.** -/
theorem reached_of_follow : ∀ {names : List String} {start : Place},
    Reached t start → follow t start names = .ok place → Reached t place
  | [], _, hstart, h => by
    cases h
    exact hstart
  | n :: rest, start, hstart, h => by
    rw [follow] at h
    split at h
    · rename_i hdirectory
      split_ifs at h
      exact reached_of_follow (hstart.enter hdirectory n) h
    · cases h
    · cases h

/-- **Everything above the place to which a path leads is a directory.** -/
theorem reached_of_locate (h : t.locate p = .ok place) : Reached t place := by
  unfold locate at h
  split_ifs at h
  · exact reached_of_follow reached_root h
  · exact reached_of_follow (show Reached t (.system []) from trivial) h

/-! ### Writing -/

/-- The file is found where it was put. -/
theorem find?_cons_self (t : FileTree) (names : List String) (n : Node) :
    find? ((names, n) :: t) names = some n := by
  simp [find?]

section
variable {names other : List String}

/-- The entries elsewhere are listed as before. -/
theorem find?_filter_of_ne (h : other ≠ names) :
    List.find? (·.1 == other) (List.filter (·.1 != names) t) = List.find? (·.1 == other) t := by
  rw [List.find?_filter]
  congr 1
  funext e
  by_cases he : e.1 = other
  · simp [he, h]
  · simp [he]

/-- The same directories are known from what lies below them, those above `names` apart. -/
theorem any_filter_of_not_above (h : other.isPrefixOf names = false) :
    (List.filter (·.1 != names) t).any (other.isPrefixOf ·.1) =
      List.any t (other.isPrefixOf ·.1) := by
  rw [List.any_filter]
  congr 1
  funext e
  by_cases he : e.1 = names
  · simp [he, h]
  · simp [he]

/-- Elsewhere the tree is the same, provided that the directories above the new node were there. -/
theorem find?_cons_filter_of_ne (n : Node) (hne : other ≠ names)
    (habove : other <+: names → t.find? other = some .directory) :
    find? ((names, n) :: List.filter (·.1 != names) t) other = t.find? other := by
  have hlisted : List.find? (·.1 == other) ((names, n) :: List.filter (·.1 != names) t) =
      List.find? (·.1 == other) t := by
    rw [List.find?_cons_of_neg (by simpa using hne.symm), find?_filter_of_ne hne]
  cases hbegins : other.isPrefixOf names with
  | true =>
    have hdirectory := habove (List.isPrefixOf_iff_prefix.1 hbegins)
    rw [hdirectory]
    rw [find?] at hdirectory ⊢
    rw [hlisted]
    cases hfound : List.find? (·.1 == other) t with
    | some e =>
      rw [hfound] at hdirectory
      exact hdirectory
    | none => simp [hbegins]
  | false =>
    rw [find?, hlisted, List.any_cons, hbegins, any_filter_of_not_above hbegins, Bool.false_or,
      find?]

end

theorem node?_write_self {names : List String} (h : t.locate p = .ok (.inside names))
    (bytes : List UInt8) : (t.write p bytes).node? (.inside names) = some (.file bytes) := by
  rw [write, h]
  exact find?_cons_self _ names _

/-- **No other place shows that a file has been written.** -/
theorem node?_write_of_ne (h : t.locate p = .ok place) (bytes : List UInt8) {other : Place}
    (hne : other ≠ place) : (t.write p bytes).node? other = t.node? other := by
  rw [write, h]
  cases place with
  | inside names =>
    cases other with
    | inside other =>
      have hne : other ≠ names := fun heq => hne (heq ▸ rfl)
      refine find?_cons_filter_of_ne _ hne fun hbegins => ?_
      refine reached_of_locate h other hbegins (hbegins.length_le.lt_of_ne fun heq => ?_)
      exact hne (hbegins.eq_of_length heq)
    | above => rfl
    | system names => rfl
    | nowhere => rfl
  | above => rfl
  | system names => rfl
  | nowhere => rfl

/-- The tree `after` is the tree `t` with the bytes in a file at the path. Of a path that leads out of
the tree nothing is kept. -/
def Gains (t after : FileTree) (p : Path) (bytes : List UInt8) : Prop :=
  ∃ place, t.locate p = .ok place ∧
    (∀ names, place = .inside names → after.node? place = some (.file bytes)) ∧
    ∀ other ≠ place, after.node? other = t.node? other

/-- **Where nothing stands in the way, a file is written, and that is all.** -/
theorem gains_write (h : t.obstacle p = none) (bytes : List UInt8) :
    t.Gains (t.write p bytes) p bytes := by
  rw [obstacle] at h
  cases hplace : t.locate p with
  | error o =>
    rw [hplace] at h
    cases h
  | ok place =>
    refine ⟨place, hplace, ?_, fun other hne => node?_write_of_ne hplace bytes hne⟩
    rintro names rfl
    exact node?_write_self hplace bytes

end Lexis.FileTree
