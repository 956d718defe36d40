import Lexis.Text.CharClass
import Lexis.Text.Quoted
import Mathlib.Algebra.Group.Nat.Defs
import Mathlib.Tactic.Common

/-! # Quoted text stands on one line and can be read back

A reader of lines breaks a text at more characters than LF: at CR, at the vertical tab and the form
feed, at three of the ASCII separators, and at three characters beyond ASCII. All of them are written
behind a backslash in a quoted text, which therefore stands on one line (`Quoted.isOneLine_encode`).

Between two marks a character is read back from the front of what was written for it
(`Quoted.unescape_escape`), so a quoted text is the quoted form of one text only
(`Quoted.encode_injective`). -/

namespace Lexis

/-! ### Texts of one line -/

/-- The characters at which a text is broken into lines. -/
def lineBreaks : List Char :=
  ['\n', '\x0b', '\x0c', '\r', '\x1c', '\x1d', '\x1e', '\u0085', '\u2028', '\u2029']

/-- The text has no character at which it could be broken. -/
def IsOneLine (t : List Char) : Prop := ∀ c ∈ t, c ∉ lineBreaks

instance (t : List Char) : Decidable (IsOneLine t) :=
  decidable_of_iff ((t.all fun c => !lineBreaks.contains c) = true) (by simp [IsOneLine])

namespace IsOneLine

@[simp] theorem nil : IsOneLine [] := by simp [IsOneLine]

@[simp] theorem cons_iff {c : Char} {t : List Char} :
    IsOneLine (c :: t) ↔ c ∉ lineBreaks ∧ IsOneLine t := by
  simp [IsOneLine]

@[simp] theorem append_iff {s t : List Char} : IsOneLine (s ++ t) ↔ IsOneLine s ∧ IsOneLine t := by
  simp [IsOneLine, or_imp, forall_and]

/-- A text of a class that has no line breaks stands on one line. -/
theorem of_class {p : Char → Bool} (hp : (lineBreaks.all fun c => !p c) = true) {t : List Char}
    (h : ∀ c ∈ t, p c = true) : IsOneLine t := by
  intro c hc hbreak
  have hnot := List.all_eq_true.1 hp c hbreak
  rw [h c hc] at hnot
  cases hnot

theorem lineFeed_notMem {t : List Char} (h : IsOneLine t) : '\n' ∉ t := by
  intro hmem
  exact h '\n' hmem (by decide)

end IsOneLine

namespace Numbered

/-! ### Numbers in hexadecimal -/

/-- The value of a hexadecimal digit. -/
def hexValue (c : Char) : Nat := if CharClass.isDigit c then c.toNat - 48 else c.toNat - 87

/-- The number that hexadecimal digits spell. -/
def valueOfHex (ds : List Char) : Nat := ds.foldl (fun n c => n * 16 + hexValue c) 0

theorem hexValue_digitChar {m : Nat} (h : m < 16) : hexValue (Nat.digitChar m) = m := by
  have table : ∀ m < 16, hexValue (Nat.digitChar m) = m := by decide
  exact table m h

theorem valueOfHex_hex {width n : Nat} (h : n < 16 ^ width) : valueOfHex (hex width n) = n := by
  induction width generalizing n with
  | zero =>
    rw [Nat.pow_zero] at h
    rw [Nat.lt_one_iff.1 h]
    rfl
  | succ width ih =>
    have hfront : n / 16 < 16 ^ width := by
      rw [Nat.pow_succ] at h
      omega
    have hlast := hexValue_digitChar (Nat.mod_lt n (show 0 < 16 by decide))
    have hstep : valueOfHex (hex width (n / 16) ++ [Nat.digitChar (n % 16)]) =
        valueOfHex (hex width (n / 16)) * 16 + hexValue (Nat.digitChar (n % 16)) := by
      simp [valueOfHex, List.foldl_append]
    rw [hex, hstep, ih hfront, hlast]
    omega

theorem isOneLine_hex (width n : Nat) : IsOneLine (hex width n) := by
  induction width generalizing n with
  | zero => exact .nil
  | succ width ih =>
    have table : ∀ m < 16, Nat.digitChar m ∉ lineBreaks := by decide
    have hlast := table (n % 16) (Nat.mod_lt n (by decide))
    rw [hex, IsOneLine.append_iff]
    exact ⟨ih _, IsOneLine.cons_iff.2 ⟨hlast, .nil⟩⟩

theorem form_eq (c : Char) :
    form c =
      if c.toNat < 16 ^ 2 then '\\' :: 'x' :: hex 2 c.toNat
      else if c.toNat < 16 ^ 4 then '\\' :: 'u' :: hex 4 c.toNat
      else '\\' :: 'U' :: hex 8 c.toNat := rfl

theorem isOneLine_form (c : Char) : IsOneLine (form c) := by
  have hback : '\\' ∉ lineBreaks := by decide
  rw [form_eq]
  split_ifs
  · exact IsOneLine.cons_iff.2 ⟨hback, IsOneLine.cons_iff.2 ⟨by decide, isOneLine_hex 2 _⟩⟩
  · exact IsOneLine.cons_iff.2 ⟨hback, IsOneLine.cons_iff.2 ⟨by decide, isOneLine_hex 4 _⟩⟩
  · exact IsOneLine.cons_iff.2 ⟨hback, IsOneLine.cons_iff.2 ⟨by decide, isOneLine_hex 8 _⟩⟩

/-- The character whose number the first `width` digits spell, and what follows them. -/
def read (width : Nat) (t : List Char) : Char × List Char :=
  (Char.ofNat (valueOfHex (t.take width)), t.drop width)

theorem read_hex_append {width : Nat} {c : Char} (h : c.toNat < 16 ^ width) (rest : List Char) :
    read width (hex width c.toNat ++ rest) = (c, rest) := by
  have hlength := length_hex width c.toNat
  have htake : (hex width c.toNat ++ rest).take width = hex width c.toNat :=
    List.take_left' hlength
  have hdrop : (hex width c.toNat ++ rest).drop width = rest := List.drop_left' hlength
  rw [read, htake, hdrop, valueOfHex_hex h, Char.ofNat_toNat]

end Numbered

namespace Quoted

/-! ### One line -/

theorem markOf_eq (t : List Char) : markOf t = '\'' ∨ markOf t = '"' := by
  unfold markOf
  split_ifs
  · exact Or.inr rfl
  · exact Or.inl rfl

theorem markOf_notMem_lineBreaks (t : List Char) : markOf t ∉ lineBreaks := by
  rcases markOf_eq t with h | h <;> rw [h] <;> decide

/-- A line break is a line end or has no shape. -/
theorem isHidden_of_mem_lineBreaks {c : Char} (h : c ∈ lineBreaks) (hlf : c ≠ '\n')
    (hcr : c ≠ '\r') : Hidden.isHidden c = true := by
  have table : (lineBreaks.all fun c => c == '\n' || c == '\r' || Hidden.isHidden c) = true := by
    decide +kernel
  have hc := List.all_eq_true.1 table c h
  simpa [hlf, hcr] using hc

theorem isOneLine_escape {mark : Char} (hmark : mark ∉ lineBreaks) (c : Char) :
    IsOneLine (escape mark c) := by
  unfold escape
  split_ifs with hself htab hlf hcr hhidden
  · have hc : c ∉ lineBreaks := by
      rcases (by simpa using hself : c = mark ∨ c = '\\') with rfl | rfl
      · exact hmark
      · decide
    exact IsOneLine.cons_iff.2 ⟨by decide, IsOneLine.cons_iff.2 ⟨hc, .nil⟩⟩
  · simp [lineBreaks]
  · simp [lineBreaks]
  · simp [lineBreaks]
  · exact Numbered.isOneLine_form c
  · have hc : c ∉ lineBreaks := fun h => hhidden (isHidden_of_mem_lineBreaks h hlf hcr)
    exact IsOneLine.cons_iff.2 ⟨hc, .nil⟩

/-- **A quoted text stands on one line.** -/
theorem isOneLine_encode (t : List Char) : IsOneLine (encode t) := by
  have hmark := markOf_notMem_lineBreaks t
  have hinner : IsOneLine (t.flatMap (escape (markOf t))) := by
    intro c hc
    obtain ⟨d, -, hd⟩ := List.mem_flatMap.1 hc
    exact isOneLine_escape hmark d c hd
  rw [encode, IsOneLine.cons_iff, IsOneLine.append_iff, IsOneLine.cons_iff]
  exact ⟨hmark, hinner, hmark, .nil⟩

/-! ### Reading back -/

/-- Reads one character back from the front of a text between marks. -/
def unescape : List Char → Option (Char × List Char)
  | '\\' :: 't' :: rest => some ('\t', rest)
  | '\\' :: 'n' :: rest => some ('\n', rest)
  | '\\' :: 'r' :: rest => some ('\r', rest)
  | '\\' :: 'x' :: rest => some (Numbered.read 2 rest)
  | '\\' :: 'u' :: rest => some (Numbered.read 4 rest)
  | '\\' :: 'U' :: rest => some (Numbered.read 8 rest)
  | '\\' :: c :: rest => some (c, rest)
  | c :: rest => some (c, rest)
  | [] => none

theorem unescape_form_append (c : Char) (rest : List Char) :
    unescape (Numbered.form c ++ rest) = some (c, rest) := by
  rw [Numbered.form_eq]
  split_ifs with htwo hfour
  · exact congrArg some (Numbered.read_hex_append htwo rest)
  · exact congrArg some (Numbered.read_hex_append hfour rest)
  · have height : c.toNat < 16 ^ 8 := c.val.toNat_lt
    exact congrArg some (Numbered.read_hex_append height rest)

theorem unescape_cons {c : Char} (hc : c ≠ '\\') (rest : List Char) :
    unescape (c :: rest) = some (c, rest) := by
  unfold unescape
  split <;> simp_all

/-- **A character is read back** from what was written for it. -/
theorem unescape_escape {mark : Char} (hmark : mark = '\'' ∨ mark = '"') (c : Char)
    (rest : List Char) : unescape (escape mark c ++ rest) = some (c, rest) := by
  unfold escape
  split_ifs with hself htab hlf hcr hhidden
  · -- neither mark nor the backslash is a letter of an escape
    rcases (by simpa using hself : c = mark ∨ c = '\\') with rfl | rfl
    · rcases hmark with rfl | rfl <;> rfl
    · rfl
  · rw [htab]
    rfl
  · rw [hlf]
    rfl
  · rw [hcr]
    rfl
  · exact unescape_form_append c rest
  · have hc : c ≠ '\\' := by
      rintro rfl
      simp at hself
    exact unescape_cons hc rest

theorem flatMap_escape_injective {mark : Char} (hmark : mark = '\'' ∨ mark = '"')
    {t u : List Char} (h : t.flatMap (escape mark) = u.flatMap (escape mark)) : t = u := by
  induction t generalizing u with
  | nil =>
    cases u with
    | nil => rfl
    | cons d u =>
      have hread := unescape_escape hmark d (u.flatMap (escape mark))
      rw [← List.flatMap_cons, ← h] at hread
      cases hread
  | cons c t ih =>
    have hread := unescape_escape hmark c (t.flatMap (escape mark))
    rw [← List.flatMap_cons, h] at hread
    cases u with
    | nil => cases hread
    | cons d u =>
      rw [List.flatMap_cons, unescape_escape hmark d] at hread
      injection hread with hread
      injection hread with hc hrest
      rw [hc, ih hrest.symm]

/-- **A quoted text is the quoted form of one text.** -/
theorem encode_injective {t u : List Char} (h : encode t = encode u) : t = u := by
  unfold encode at h
  injection h with hmark h
  rw [hmark] at h
  exact flatMap_escape_injective (markOf_eq u) (List.append_cancel_right h)

end Quoted

end Lexis
