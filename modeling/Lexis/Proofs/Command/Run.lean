import Lexis.Command.FileTree
import Lexis.Command.Run
import Lexis.Proofs.Command.FileTree

/-! # A run delivers its listing or nothing

Between the arguments and the listing there are many places where a run may stop. At each of them it
only speaks on standard error (`Outcome.Silent`). Where it stops nowhere, it delivers the listing of
its options (`Options.Delivers`), and only then does it end with the status zero
(`runCommand_ending_eq_returned_zero_iff`).

A silent run leaves the tree as it is, and so does a run that prints its listing. A run with an output
file leaves the listing in that file and everything else as it is (`runCommand_delivers_or_leaves`). -/

namespace Lexis

namespace Outcome

/-- The run did not end well, and has left nothing but words on standard error. -/
structure Silent (out : Outcome) : Prop where
  ending : out.ending ≠ .returned 0
  stdout : out.stdout = ""
  written : out.written = none

/-- The tree that a run leaves behind. -/
def leaves (out : Outcome) (t : FileTree) : FileTree :=
  match out.written with
  | none => t
  | some (path, text) => t.write path text.toUTF8.toList

theorem leaves_of_not_written {out : Outcome} (h : out.written = none) (t : FileTree) :
    out.leaves t = t := by
  rw [leaves, h]

theorem leaves_of_written {out : Outcome} {path : Path} {text : String}
    (h : out.written = some (path, text)) (t : FileTree) :
    out.leaves t = t.write path text.toUTF8.toList := by
  rw [leaves, h]

theorem silent_of_ne {ending : Ending} (h : ending ≠ .returned 0) (stderr : String) :
    (silent ending stderr).Silent := ⟨h, rfl, rfl⟩

theorem silent_crashed (c : Crash) (stderr : String) : (silent (.crashed c) stderr).Silent :=
  silent_of_ne (fun h => by cases h) stderr

theorem silent_failed {status : Nat} (h : status ≠ 0) (log message : String) :
    (failed status log message).Silent :=
  silent_of_ne (fun heq => h (Ending.returned.inj heq)) _

end Outcome

namespace TokenRun

variable {r : TokenRun}

theorem failure_and_tokens_of_positioned {ts : List (Position × Token)}
    (h : r.positioned = .ok ts) : r.failure = none ∧ r.tokens = ts := by
  rw [positioned] at h
  split at h
  · rename_i hnone
    exact ⟨hnone, Except.ok.inj h⟩
  · cases h

theorem failure_of_positioned {f : Failure} (h : r.positioned = .error f) : r.failure = some f := by
  rw [positioned] at h
  split at h
  · cases h
  · rename_i g hsome
    rw [hsome, Except.error.inj h]

end TokenRun

/-! ### The listing and its place -/

namespace Options

variable {o : Options} {s : Surroundings} {listing : String}

/-- The listing of the input file; none if the file cannot be read, or not lexed to its end. -/
def listing? (o : Options) (s : Surroundings) : Option String :=
  match s.look o.input, s.readFailure o.input with
  | .file bytes, none =>
    let text := Latin.decode bytes
    match (TokenRun.ofText text).positioned with
    | .ok tokens => some (Listing.render o.layout text tokens)
    | .error _ => none
  | _, _ => none

/-- Nothing stands in the way of the output. -/
def Clear (o : Options) (s : Surroundings) : Prop := ∀ path ∈ o.output, s.obstacle path = none

/-- The run ended well, and the listing is in the output file if there is one, else on standard
output. -/
structure Delivers (o : Options) (listing : String) (out : Outcome) : Prop where
  ending : out.ending = .returned 0
  stdout : out.stdout = o.output.elim listing fun _ => ""
  written : out.written = o.output.map (·, listing)

theorem delivers_deliver (h : o.Clear s) (listing stderr : String) :
    o.Delivers listing (o.deliver s listing stderr) := by
  rw [deliver]
  cases hout : o.output with
  | none => exact ⟨rfl, by rw [hout]; rfl, by rw [hout]; rfl⟩
  | some path =>
    simp only [h path hout]
    exact ⟨rfl, by rw [hout]; rfl, by rw [hout]; rfl⟩

theorem silent_deliver (h : ¬o.Clear s) (listing stderr : String) :
    (o.deliver s listing stderr).Silent := by
  rw [deliver]
  cases hout : o.output with
  | none => exact absurd (fun path hpath => by rw [hout] at hpath; cases hpath) h
  | some path =>
    cases hobstacle : s.obstacle path with
    | some b => simpa only [hobstacle] using Outcome.silent_crashed _ _
    | none =>
      refine absurd (fun other hother => ?_) h
      rw [hout] at hother
      cases hother
      exact hobstacle

/-- A text that is lexed to its end goes on to its listing. -/
theorem exists_lexText_eq_deliver {text : List Char} {tokens : List (Position × Token)}
    (h : (TokenRun.ofText text).positioned = .ok tokens) (o : Options) (s : Surroundings) :
    ∃ stderr, o.lexText s text = o.deliver s (Listing.render o.layout text tokens) stderr := by
  obtain ⟨hnone, rfl⟩ := TokenRun.failure_and_tokens_of_positioned h
  rw [lexText, hnone]
  exact ⟨_, rfl⟩

theorem silent_lexText {text : List Char} {f : Failure}
    (h : (TokenRun.ofText text).positioned = .error f) (o : Options) (s : Surroundings) :
    (o.lexText s text).Silent := by
  rw [lexText, TokenRun.failure_of_positioned h]
  exact Outcome.silent_of_ne (by decide) _

/-- An input file with a listing goes on to it. -/
theorem exists_lexFile_eq_deliver (hinput : checkInput o.input s = .ok none)
    (hlisting : o.listing? s = some listing) :
    ∃ stderr, o.lexFile s = o.deliver s listing stderr := by
  rw [listing?] at hlisting
  split at hlisting
  · rename_i bytes hlook hread
    cases hrun : (TokenRun.ofText (Latin.decode bytes)).positioned with
    | ok tokens =>
      simp only [hrun, Option.some.injEq] at hlisting
      rw [lexFile, hinput, hlook, hread, ← hlisting]
      exact exists_lexText_eq_deliver hrun o s
    | error f =>
      simp only [hrun] at hlisting
      cases hlisting
  · cases hlisting

/-- Every other input file stops the run. -/
theorem silent_lexFile (h : checkInput o.input s ≠ .ok none ∨ o.listing? s = none) :
    (o.lexFile s).Silent := by
  unfold lexFile
  split
  · exact Outcome.silent_crashed _ _
  · exact Outcome.silent_failed (by decide) _ _
  · rename_i bytes hinput hlook
    cases hread : s.readFailure o.input with
    | some m => exact Outcome.silent_failed (by decide) _ _
    | none =>
      have hlisting : o.listing? s = none := h.resolve_left (not_not_intro hinput)
      rw [listing?, hlook, hread] at hlisting
      cases hrun : (TokenRun.ofText (Latin.decode bytes)).positioned with
      | ok tokens =>
        simp only [hrun] at hlisting
        cases hlisting
      | error f => exact silent_lexText hrun o s
  · exact Outcome.silent_failed (by decide) _ _

end Options

/-! ### Runs -/

/-- A run with the arguments comes to the listing: they make options, the input file passes its check
and is lexed to its end, and nothing stands in the way of the output. -/
structure Completes (argv : List String) (s : Surroundings) (o : Options) (listing : String) :
    Prop where
  options : ∃ a, Arguments.parse argv = .ok a ∧ Options.resolve a s = .ok o
  input : Options.checkInput o.input s = .ok none
  listing : o.listing? s = some listing
  clear : o.Clear s

section
variable {argv : List String} {s : Surroundings} {o : Options} {listing : String}

theorem runCommand_eq_lexFile {a : Arguments} (ha : Arguments.parse argv = .ok a)
    (ho : Options.resolve a s = .ok o) : runCommand argv s = o.lexFile s := by
  rw [runCommand, ha]
  simp only [ho]

/-- Arguments that make no options stop the run. -/
theorem silent_runCommand (h : Arguments.parse argv ≠ .error .help)
    (hnone : ∀ a o, Arguments.parse argv = .ok a → Options.resolve a s ≠ .ok o) :
    (runCommand argv s).Silent := by
  unfold runCommand
  split
  · rename_i hhelp
    exact absurd hhelp h
  · exact Outcome.silent_of_ne (fun heq => by cases heq) _
  · rename_i a ha
    split
    · exact Outcome.silent_failed (by decide) _ _
    · exact Outcome.silent_crashed _ _
    · rename_i o ho
      exact absurd ho (hnone a o ha)

/-- **A run that comes to a listing delivers it.** -/
theorem Completes.delivers (h : Completes argv s o listing) :
    o.Delivers listing (runCommand argv s) := by
  obtain ⟨⟨a, ha, ho⟩, hinput, hlisting, hclear⟩ := h
  obtain ⟨stderr, hdeliver⟩ := Options.exists_lexFile_eq_deliver hinput hlisting
  rw [runCommand_eq_lexFile ha ho, hdeliver]
  exact Options.delivers_deliver hclear listing stderr

/-- **Every other run leaves nothing**, unless it shows the help text. -/
theorem silent_of_not_completes (h : Arguments.parse argv ≠ .error .help)
    (hnot : ∀ o listing, ¬Completes argv s o listing) : (runCommand argv s).Silent := by
  by_cases hoptions : ∃ a o, Arguments.parse argv = .ok a ∧ Options.resolve a s = .ok o
  · obtain ⟨a, o, ha, ho⟩ := hoptions
    rw [runCommand_eq_lexFile ha ho]
    by_cases hinput : Options.checkInput o.input s = .ok none
    · cases hlisting : o.listing? s with
      | none => exact Options.silent_lexFile (.inr hlisting)
      | some listing =>
        obtain ⟨stderr, hdeliver⟩ := Options.exists_lexFile_eq_deliver hinput hlisting
        rw [hdeliver]
        exact Options.silent_deliver
          (fun hclear => hnot o listing ⟨⟨a, ha, ho⟩, hinput, hlisting, hclear⟩) listing stderr
    · exact Options.silent_lexFile (.inl hinput)
  · exact silent_runCommand h fun a o ha ho => hoptions ⟨a, o, ha, ho⟩

/-- **The status is zero exactly for the runs that come to a listing.** -/
theorem runCommand_ending_eq_returned_zero_iff (h : Arguments.parse argv ≠ .error .help) :
    (runCommand argv s).ending = .returned 0 ↔ ∃ o listing, Completes argv s o listing := by
  constructor
  · intro hending
    by_contra hnot
    simp only [not_exists] at hnot
    exact (silent_of_not_completes h hnot).ending hending
  · rintro ⟨o, listing, hcompletes⟩
    exact hcompletes.delivers.ending

end

/-! ### What is left in the tree -/

/-- **All or nothing.** Let a run in any tree not show the help text, whether the input file may be read
or not and whatever goes wrong in reading it. If it ends with the status zero, the listing of its
options is on standard output, or else in the output file, and nothing else has changed. If not,
standard output is empty and the tree is as it was. -/
theorem runCommand_delivers_or_leaves {argv : List String} (h : Arguments.parse argv ≠ .error .help)
    (t : FileTree) (unreadable : Bool) (readFailure : Option String) :
    let s := t.surroundings unreadable readFailure
    let out := runCommand argv s
    (out.ending = .returned 0 → ∃ o listing, Completes argv s o listing ∧
      match o.output with
      | none => out.stdout = listing ∧ out.written = none ∧ out.leaves t = t
      | some path =>
        out.stdout = "" ∧ out.written = some (path, listing) ∧
          t.Gains (out.leaves t) path listing.toUTF8.toList) ∧
    (out.ending ≠ .returned 0 → out.stdout = "" ∧ out.written = none ∧ out.leaves t = t) := by
  intro s out
  constructor
  · intro hending
    obtain ⟨o, listing, hcompletes⟩ := (runCommand_ending_eq_returned_zero_iff h).1 hending
    obtain ⟨-, hstdout, hwritten⟩ := hcompletes.delivers
    refine ⟨o, listing, hcompletes, ?_⟩
    cases hout : o.output with
    | none =>
      rw [hout] at hstdout hwritten
      exact ⟨hstdout, hwritten, Outcome.leaves_of_not_written hwritten t⟩
    | some path =>
      rw [hout] at hstdout hwritten
      refine ⟨hstdout, hwritten, ?_⟩
      rw [Outcome.leaves_of_written hwritten]
      exact FileTree.gains_write (hcompletes.clear path hout) _
  · intro hending
    have hsilent : out.Silent := silent_of_not_completes h fun o listing hcompletes =>
      hending hcompletes.delivers.ending
    exact ⟨hsilent.stdout, hsilent.written, Outcome.leaves_of_not_written hsilent.written t⟩

/-- A run that fails behind a token has shown the token in its log, but leaves nothing. Over a file
without the failure, the same arguments leave the output file. -/
theorem runCommand_delivers_or_leaves_behind_token :
    let t : FileTree := [(["good.sy"], .file [120]), (["bad.sy"], .file [120, 32, 35])]
    let bad := ["-v", "-o", "out.txt", "bad.sy"]
    let good := ["-v", "-o", "out.txt", "good.sy"]
    let s := t.surroundings false none
    let token := LogRecord.lines .debug [LogRecord.ofToken (Position.start, .identifier "x")]
    let listing := "Identifier: x\n"
    (Arguments.parse bad ≠ .error .help ∧ (runCommand bad s).ending = .returned 1 ∧
      token.toList <+: (runCommand bad s).stderr.toList ∧ (runCommand bad s).stdout = "" ∧
      (runCommand bad s).written = none ∧ (runCommand bad s).leaves t = t) ∧
    Arguments.parse good ≠ .error .help ∧ (runCommand good s).ending = .returned 0 ∧
      (runCommand good s).stdout = "" ∧
      t.Gains ((runCommand good s).leaves t) (Path.ofString "out.txt") listing.toUTF8.toList := by
  intro t bad good s token listing
  have hbad : Arguments.parse bad ≠ .error .help := by decide +kernel
  have hfails : (runCommand bad s).ending = .returned 1 := by decide +kernel
  have hfails' : (runCommand bad s).ending ≠ .returned 0 := by rw [hfails]; decide
  have hgood : Arguments.parse good ≠ .error .help := by decide +kernel
  have hends : (runCommand good s).ending = .returned 0 := by decide +kernel
  have hwritten : (runCommand good s).written = some (Path.ofString "out.txt", listing) := by
    decide +kernel
  obtain ⟨o, listing', -, hleft⟩ := (runCommand_delivers_or_leaves hgood t false none).1 hends
  refine ⟨⟨hbad, hfails, by decide +kernel,
    (runCommand_delivers_or_leaves hbad t false none).2 hfails'⟩, hgood, hends, ?_⟩
  cases hout : o.output with
  | none =>
    rw [hout] at hleft
    obtain ⟨-, hsaved, -⟩ := hleft
    cases hsaved.symm.trans hwritten
  | some path =>
    rw [hout] at hleft
    obtain ⟨hstdout, hsaved, hgains⟩ := hleft
    cases hsaved.symm.trans hwritten
    exact ⟨hstdout, hgains⟩

end Lexis
