import RequirePath.Proofs.Cache.Content
import RequirePath.Proofs.Text.Lossy

/-! The load paths that the command prints. Lines that are printed one after another are taken back as they are, empty ones
included; a run that gives none is reported with the command, with its exit code if it has one, and with what it wrote to
its error output. -/

namespace RequirePath.LoadPaths

open RequirePath.Action

variable {c : Config} {h : Host} {lines : List (List Char)} {last : List Char} {command : List String} {run : ToolRun}
variable {rails : Bool}

/-! ### Lines -/

/-- The output of a command that prints lines, each with a line end after it. -/
def printed (lines : List (List Char)) : List UInt8 :=
  lines.flatMap fun line => Utf8.encode line ++ Utf8.encode ['\n']

theorem printed_eq_encode (lines : List (List Char)) : printed lines = Utf8.encode (lines.flatMap (· ++ ['\n'])) := by
  simp only [printed, Utf8.encode, List.flatMap_assoc, List.flatMap_append]

theorem parseOutput_of_lines (hlines : ∀ line ∈ lines, '\n' ∉ line) : parseOutput (lines.flatMap (· ++ ['\n'])) = lines := by
  unfold parseOutput
  simp only [Text.splitAt_ended hlines, List.getLast?_concat, if_true, List.dropLast_concat]

/-- A last line that is not empty needs no line end. -/
theorem parseOutput_of_last (hlines : ∀ line ∈ lines, '\n' ∉ line) (hlast : '\n' ∉ last) (hne : last ≠ []) :
    parseOutput (lines.flatMap (· ++ ['\n']) ++ last) = lines ++ [last] := by
  have hopen : (lines ++ [last]).getLast? ≠ some [] := by
    rw [List.getLast?_concat]
    exact fun heq => hne (Option.some.inj heq)
  unfold parseOutput
  simp only [Text.splitAt_flatMap hlines hlast, if_neg hopen]

/-! ### Runs -/

/-- A run gives no load paths: it cannot start, it ends with another code than zero, or what it prints is no text. -/
def Fails : ToolRun → Prop
  | .cannotStart _ => True
  | .finished stdout _ exitCode => exitCode ≠ 0 ∨ ∀ cs, Utf8.encode cs ≠ stdout

/-- The exit code of a run, if it came to its end. -/
def exitCode? : ToolRun → Option Int
  | .cannotStart _ => none
  | .finished _ _ exitCode => some exitCode

/-- What a run has written to its error output. -/
def errorOutput : ToolRun → List UInt8
  | .cannotStart _ => []
  | .finished _ stderr _ => stderr

/-- A failure that tells of a run of a command. -/
structure Reports (command : List String) (run : ToolRun) (f : ToolFailure) : Prop where
  command : f.command = command
  exitCode : f.exitCode = exitCode? run
  stderr : Utf8.Shows (errorOutput run) f.stderr.toList

theorem ofRun_of_text (cs : List Char) (stderr : List UInt8) (command : List String) :
    ofRun command (.finished (Utf8.encode cs) stderr 0) = .ok ((parseOutput cs).map Utf8.encode) := by
  simp [ofRun, Utf8.decode_encode]

/-- A run that came to its end fails with its exit code and with its error output as a text. -/
theorem ofRun_of_fails {stdout stderr : List UInt8} {exitCode : Int} (command : List String)
    (hf : Fails (.finished stdout stderr exitCode)) : ∃ message, ofRun command (.finished stdout stderr exitCode) =
      .error (.tool ⟨message, command, some exitCode, String.ofList (Utf8.decodeLossy stderr)⟩) := by
  by_cases hcode : exitCode = 0
  · cases hdecode : Utf8.decode stdout with
    | error fault =>
        subst hcode
        exact ⟨_, by simp only [ofRun, hdecode]; rfl⟩
    | ok cs => exact absurd (Utf8.encode_of_decode hdecode) (hf.resolve_left (absurd hcode) cs)
  · exact ⟨_, by simp only [ofRun, if_pos hcode]; rfl⟩

/-- Any other run ends well and prints a text. -/
theorem exists_text_of_not_fails (hf : ¬Fails run) : ∃ cs stderr, run = .finished (Utf8.encode cs) stderr 0 := by
  cases run with
  | cannotStart errno => exact absurd trivial hf
  | finished stdout stderr exitCode =>
      obtain ⟨hcode, htext⟩ := not_or.1 hf
      obtain ⟨cs, hcs⟩ := Classical.not_forall.1 htext
      rw [← Classical.not_not.1 hcs, Classical.not_not.1 hcode]
      exact ⟨cs, stderr, rfl⟩

/-- A run gives load paths, or fails and is reported. -/
theorem ofRun_cases (command : List String) (run : ToolRun) :
    (¬Fails run ∧ ∃ paths, ofRun command run = .ok paths) ∨
      Fails run ∧ ∃ f, ofRun command run = .error (.tool f) ∧ Reports command run f := by
  by_cases hf : Fails run
  · refine Or.inr ⟨hf, ?_⟩
    cases run with
    | cannotStart errno => exact ⟨_, rfl, rfl, rfl, .done⟩
    | finished stdout stderr exitCode =>
        obtain ⟨message, heq⟩ := ofRun_of_fails command hf
        refine ⟨_, heq, rfl, rfl, ?_⟩
        rw [String.toList_ofList]
        exact Utf8.shows_iff.2 rfl
  · obtain ⟨cs, stderr, rfl⟩ := exists_text_of_not_fails hf
    exact Or.inl ⟨hf, _, ofRun_of_text cs stderr command⟩

/-- The load paths are what the run of the command gives, wherever log records go. -/
theorem enumerate_fst (hmarker : h.files.isThere h.workingDirectory c.railsMarkerPath.spelling = .ok rails) :
    (enumerate c h).1 = ofRun (LoadPaths.command rails) h.tool := by
  have hprobe : isRailsProject c h = (.ok rails, h) := by
    show (Except.mapError _ (h.files.isThere h.workingDirectory c.railsMarkerPath.spelling), h) = _
    rw [hmarker]
    rfl
  unfold enumerate
  rw [bind_of_ok hprobe]
  have htool (message : String) : (h.log part .info message true).tool = h.tool := (h.log_continues part .info message true).tool
  simp only [bind_eq, Action.log, change, lookOrFail, Host.note, htool]
  cases ofRun (LoadPaths.command rails) h.tool with
  | error e => rfl
  | ok found => rfl

end RequirePath.LoadPaths
