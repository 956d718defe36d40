import Lexis.Proofs.Command.Run
import Lexis.Proofs.Listing

/-! # Lines of what the command lists

The command lists the tokens of its input file by their canonical texts, each with LF behind it. The
payload of a character, a comment or a string stands in the text as it is, with its line feeds. So
the listing has one line for each token that is kept exactly if none of these has a line feed in its
payload (`Options.listing_lines`); a string over two lines makes two lines of its own
(`runCommand_lists_two_lines`). -/

namespace Lexis

namespace Options

variable {o : Options} {s : Surroundings} {bytes : List UInt8} {ts : List (Position × Token)}

/-- A file that is lexed to its end has a listing. -/
theorem listing?_eq_some (hlook : s.look o.input = .file bytes)
    (hread : s.readFailure o.input = none)
    (hrun : (TokenRun.ofText (Latin.decode bytes)).positioned = .ok ts) :
    o.listing? s = some (Listing.render o.layout (Latin.decode bytes) ts) := by
  unfold listing?
  rw [hlook, hread]
  simp only [hrun]

/-- **How many lines a listing has.** Every input file that is lexed to its end has a listing, under
every layout. Cut at LF, it gives what the lines of the kept tokens give, in their order, and nothing
behind the last LF. Its line feeds are one for each kept token, and those in the canonical texts. So
there is one line for each kept token exactly if no character, comment or string that is kept has a
line feed in it, and then the lines are the canonical texts of the kept tokens, behind their locations
where the layout has them. -/
theorem listing_lines (hlook : s.look o.input = .file bytes)
    (hread : s.readFailure o.input = none)
    (hrun : (TokenRun.ofText (Latin.decode bytes)).positioned = .ok ts) :
    let kept := ts.filter (o.layout.keeps ·.2)
    let line t := (o.layout.line (Latin.decode bytes) t).toList
    ∃ listing, o.listing? s = some listing ∧
      listing.toList.splitOn '\n' = (kept.flatMap fun t => (line t).splitOn '\n') ++ [[]] ∧
      listing.toList.count '\n' =
        kept.length + (kept.map fun t => t.2.text.toList.count '\n').sum ∧
      (listing.toList.count '\n' = kept.length ↔ ∀ t ∈ kept, ¬t.2.HasLineFeed) ∧
      ((∀ t ∈ kept, ¬t.2.HasLineFeed) →
        listing.toList.splitOn '\n' = kept.map line ++ [[]]) := by
  intro kept line
  obtain ⟨-, htokens⟩ := TokenRun.failure_and_tokens_of_positioned hrun
  have hbreaks : ∀ t ∈ kept, '\n' ∈ t.2.text.toList ↔ t.2.HasLineFeed := by
    intro t ht
    have hmem : t ∈ (TokenRun.ofText (Latin.decode bytes)).tokens :=
      htokens ▸ List.mem_of_mem_filter ht
    obtain ⟨l, hl⟩ := Listing.exists_spells_of_mem hmem
    exact Token.lineFeed_mem_text_iff hl
  have htexts : (∀ t ∈ kept, '\n' ∉ t.2.text.toList) ↔ ∀ t ∈ kept, ¬t.2.HasLineFeed :=
    forall₂_congr fun t ht => not_congr (hbreaks t ht)
  refine ⟨_, listing?_eq_some hlook hread hrun, ?_, Listing.count_render _ _ _, ?_, fun h => ?_⟩
  · rw [Listing.toList_render, Listing.splitOn_lines]
  · rw [Listing.count_render_eq_length_iff, htexts]
  · rw [Listing.toList_render]
    refine Listing.splitOn_lines_of_notMem fun t ht => ?_
    rw [Listing.lineFeed_mem_line_iff]
    exact htexts.2 h t ht

/-- A comment over two lines is left out, and a string that holds other line ends is kept. -/
theorem listing_lines_without_comment :
    let text := "x/*a\nb*/ \"\r\t\""
    let s := FileTree.surroundings [(["a.sy"], .file text.toUTF8.toList)] false none
    let o : Options := ⟨⟨"", ["a.sy"]⟩, none, ⟨true, true⟩, false, .warning⟩
    s.look o.input = .file text.toUTF8.toList ∧ s.readFailure o.input = none ∧
      (TokenRun.ofText (Latin.decode text.toUTF8.toList)).positioned =
        .ok [(.start, .identifier "x"), (⟨0, 1, 1, false⟩, .comment "a\nb"),
          (⟨1, 3, 9, false⟩, .string "\r\t")] ∧
      ∃ listing, o.listing? s = some listing ∧ listing.toList.count '\n' = 2 ∧
        listing.toList.splitOn '\n' =
          ["1:1\tIdentifier: x".toList, "2:5\tStringToken: \r\t".toList, []] := by
  intro text s o
  have hlook : s.look o.input = .file text.toUTF8.toList := by decide +kernel
  have hrun : (TokenRun.ofText (Latin.decode text.toUTF8.toList)).positioned =
      .ok [(.start, .identifier "x"), (⟨0, 1, 1, false⟩, .comment "a\nb"),
        (⟨1, 3, 9, false⟩, .string "\r\t")] := by decide +kernel
  obtain ⟨listing, hlisting, -, -, hcount, hlines⟩ := listing_lines hlook rfl hrun
  exact ⟨hlook, rfl, hrun, listing, hlisting, hcount.2 (by decide +kernel),
    (hlines (by decide +kernel)).trans (by decide +kernel)⟩

end Options

/-- A string over two lines makes one token and two lines, and none of these is the text of the
token. -/
theorem runCommand_lists_two_lines :
    let text := "\"a\nb\""
    let s := FileTree.surroundings [(["a.sy"], .file text.toUTF8.toList)] false none
    let token := Token.string "a\nb"
    (TokenRun.ofText (Latin.decode text.toUTF8.toList)).positioned = .ok [(.start, token)] ∧
      (runCommand ["a.sy"] s).stdout = "StringToken: a\nb\n" ∧
      (runCommand ["a.sy"] s).stdout.toList.count '\n' ≠ [token].length ∧
      token.text.toList ∉ (runCommand ["a.sy"] s).stdout.toList.splitOn '\n' := by
  intro text s token
  have hrun : (TokenRun.ofText (Latin.decode text.toUTF8.toList)).positioned =
      .ok [(.start, token)] := by decide +kernel
  have hout : (runCommand ["a.sy"] s).stdout = "StringToken: a\nb\n" := by decide +kernel
  refine ⟨hrun, hout, ?_, ?_⟩
  · rw [hout]
    decide
  · rw [hout]
    decide +kernel

end Lexis
