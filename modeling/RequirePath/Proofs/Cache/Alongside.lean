import RequirePath.Proofs.Cache.Cases
import RequirePath.Proofs.File.SameBut
import RequirePath.Proofs.Walk.Recursion

/-! Two runs side by side, on machines whose files are the same but at known places, where only the times and bytes of files
may differ. What the program does on both has one result and leaves two such machines, runs the load-path command
alike, and warns no one; only the warning about a stale lock file, and the reading of a cache file, are left out here. -/

namespace RequirePath

open FileSystem

namespace Event

/-- A warning to the user. -/
def warning? : Event → Option String
  | .warned message => some message
  | _ => none

end Event

namespace Host

/-- The warnings to the user. -/
def warnings (h : Host) : List String := h.events.filterMap Event.warning?

variable {P : Location → Prop} {h k : Host}

theorem warnings_note {e : Event} (he : e.warning? = none) : (h.note e).warnings = h.warnings := by
  simp [warnings, note, he]

theorem warnings_note_warned (h : Host) (message : String) :
    (h.note (.warned message)).warnings = h.warnings ++ [message] := by
  simp [warnings, note, Event.warning?]

/-- Two machines are the same but for events, and for files at certain places, and the load-path command has been run alike
on both. -/
structure Alongside (P : Location → Prop) (h k : Host) : Prop where
  console : h.LogsToConsole
  continues : h.Continues k
  files : SameBut P h.files k.files
  toolRuns : k.toolRuns = h.toolRuns

theorem Alongside.workingDirectory (a : Alongside P h k) : k.workingDirectory = h.workingDirectory :=
  a.continues.workingDirectory

theorem Alongside.now (a : Alongside P h k) : k.now = h.now := a.continues.now

theorem Alongside.console' (a : Alongside P h k) : k.LogsToConsole := a.continues.logsToConsole a.console

theorem Alongside.refl (hc : h.LogsToConsole) : Alongside P h h :=
  ⟨hc, rfl, sameBut_refl h.files, rfl⟩

theorem Alongside.mono {Q : Location → Prop} (a : Alongside P h k) (hq : ∀ q, P q → Q q) : Alongside Q h k :=
  { a with files := a.files.mono hq }

theorem Alongside.change {Q : Location → Prop} {fs fs' : FileSystem} (a : Alongside P h k) (hf : SameBut Q fs fs') :
    Alongside Q { h with files := fs } { k with files := fs' } where
  console := a.console
  continues := by
    rw [a.continues]
    rfl
  files := hf
  toolRuns := a.toolRuns

theorem Alongside.pause {s t : Host} (a : Alongside P h k) (hs : Cache.Pauses h s) (ht : Cache.Pauses k t) :
    Alongside P s t where
  console := hs.continues.logsToConsole a.console
  continues := by
    rw [ht.continues, a.continues, hs.continues]
    rfl
  files := by
    rw [hs.files, ht.files]
    exact a.files
  toolRuns := by
    rw [hs.toolRuns, ht.toolRuns]
    exact a.toolRuns

/-- Runs of the load-path command are noted in both or in none. -/
theorem Alongside.note (a : Alongside P h k) {e e' : Event} (he : e'.toolRun? = e.toolRun?) :
    Alongside P (h.note e) (k.note e') where
  console := a.console
  continues := by
    rw [a.continues]
    rfl
  files := a.files
  toolRuns := by
    have hruns := a.toolRuns
    simp only [Host.toolRuns, Host.note, List.filterMap_append, List.filterMap_cons, List.filterMap_nil, he] at hruns ⊢
    rw [hruns]

theorem warnings_log (hc : h.LogsToConsole) (part : String) (level : Log.Level) (message : String) (exact : Bool) :
    (h.log part level message exact).warnings = h.warnings := by
  rw [log_eq hc]
  split_ifs
  · exact warnings_note rfl
  · rfl

theorem Alongside.log (a : Alongside P h k) (part : String) (level : Log.Level) (message : String) (exact : Bool) :
    Alongside P (h.log part level message exact) (k.log part level message exact) := by
  have hkeeps : k.keeps level = h.keeps level := by
    rw [a.continues]
    rfl
  rw [log_eq a.console, log_eq a.console', hkeeps]
  split_ifs
  · exact a.note rfl
  · exact a

end Host

namespace Action

open Host

variable {α β : Type} {P : Location → Prop} {act : Action α} {next : α → Action β} {h k : Host}

/-- Two actions end the same: they give the same and leave machines alongside. -/
structure SameEnd (P : Location → Prop) (x y : Except Failure α × Host) : Prop where
  result : y.1 = x.1
  after : Alongside P x.2 y.2

/-- An action ends the same on two machines, and warns the user on neither. -/
structure RunsAlike (P : Location → Prop) (act : Action α) (h k : Host) : Prop extends SameEnd P (act h) (act k) where
  quiet : (act h).2.warnings = h.warnings ∧ (act k).2.warnings = k.warnings

/-- What follows may rest on both having ended well. -/
theorem SameEnd.bind (ha : SameEnd P (act h) (act k))
    (hn : ∀ a h' k', act h = (.ok a, h') → act k = (.ok a, k') → Alongside P h' k' → SameEnd P (next a h') (next a k')) :
    SameEnd P ((act >>= next) h) ((act >>= next) k) := by
  obtain ⟨hresult, hafter⟩ := ha
  rcases hh : act h with ⟨r, h'⟩
  rcases hk : act k with ⟨r', k'⟩
  rw [hh, hk] at hresult hafter
  obtain rfl : r' = r := hresult
  cases r' with
  | error e =>
      rw [bind_of_error hh, bind_of_error hk]
      exact ⟨rfl, hafter⟩
  | ok a =>
      rw [bind_of_ok hh, bind_of_ok hk]
      exact hn a h' k' hh hk hafter

theorem RunsAlike.bind (ha : RunsAlike P act h k)
    (hn : ∀ a h' k', act h = (.ok a, h') → act k = (.ok a, k') → Alongside P h' k' → RunsAlike P (next a) h' k') :
    RunsAlike P (act >>= next) h k := by
  refine ⟨ha.toSameEnd.bind fun a h' k' hh hk hafter => (hn a h' k' hh hk hafter).toSameEnd, ?_⟩
  obtain ⟨⟨hresult, hafter⟩, hquiet⟩ := ha
  rcases hh : act h with ⟨r, h'⟩
  rcases hk : act k with ⟨r', k'⟩
  rw [hh, hk] at hresult hafter hquiet
  obtain rfl : r' = r := hresult
  cases r' with
  | error e =>
      rw [bind_of_error hh, bind_of_error hk]
      exact hquiet
  | ok a =>
      obtain ⟨hq, hq'⟩ := (hn a h' k' hh hk hafter).quiet
      rw [bind_of_ok hh, bind_of_ok hk, hq, hq']
      exact hquiet

/-- An action runs alike on all machines alongside. -/
def Alike (P : Location → Prop) (act : Action α) : Prop :=
  ∀ h k, Alongside P h k → RunsAlike P act h k

theorem alike_bind (ha : Alike P act) (hn : ∀ a, Alike P (next a)) : Alike P (act >>= next) :=
  fun h k a => (ha h k a).bind fun b h' k' _ _ a' => hn b h' k' a'

theorem alike_pure (a : α) : Alike P (pure a : Action α) := fun _ _ ha => ⟨⟨rfl, ha⟩, rfl, rfl⟩

theorem alike_fail (e : Failure) : Alike P (fail e : Action α) := fun _ _ ha => ⟨⟨rfl, ha⟩, rfl, rfl⟩

theorem alike_look {f : Host → α} (hf : ∀ h k, Alongside P h k → f k = f h) : Alike P (look f) :=
  fun h k a => ⟨⟨congrArg Except.ok (hf h k a), a⟩, rfl, rfl⟩

theorem alike_lookOrFail {f : Host → Except Failure α} (hf : ∀ h k, Alongside P h k → f k = f h) : Alike P (lookOrFail f) :=
  fun h k a => ⟨⟨hf h k a, a⟩, rfl, rfl⟩

theorem RunsAlike.attempt (ha : RunsAlike P act h k) : RunsAlike P (attempt act) h k := by
  obtain ⟨⟨hresult, hafter⟩, hquiet⟩ := ha
  exact ⟨⟨congrArg Except.ok hresult, hafter⟩, hquiet⟩

theorem alike_attempt (ha : Alike P act) : Alike P (attempt act) :=
  fun h k a => (ha h k a).attempt

theorem alike_ite {c : Prop} [Decidable c] {act' : Action α} (ha : Alike P act) (ha' : Alike P act') :
    Alike P (if c then act else act') := by
  split_ifs
  · exact ha
  · exact ha'

theorem alike_hostLog (part : String) (level : Log.Level) (message : String) (exact : Bool) :
    Alike P (change fun h => h.log part level message exact) := by
  intro h k a
  refine ⟨⟨rfl, a.log part level message exact⟩, ?_, ?_⟩
  · exact warnings_log a.console _ _ _ _
  · exact warnings_log a.console' _ _ _ _

theorem alike_log (part : String) (level : Log.Level) (message : String) : Alike P (log part level message) :=
  alike_hostLog part level message true

theorem alike_note {e : Event} (he : e.warning? = none) : Alike P (change fun h => h.note e) :=
  fun _ _ a => ⟨⟨rfl, a.note rfl⟩, warnings_note he, warnings_note he⟩

theorem runsAlike_changeFiles {path : Pathname} {f : Host → Except Errno FileSystem} (a : Alongside P h k)
    (hend : EndAlike (SameBut P) (f h) (f k)) : RunsAlike P (changeFiles path f) h k := by
  by_cases hnul : Pathname.holdsNul path = true
  · refine ⟨⟨?_, ?_⟩, ?_⟩ <;> simp only [changeFiles, if_pos hnul, and_self]
    exact a
  · generalize hh : f h = x at hend
    generalize hk : f k = y at hend
    cases hend with
    | refused e =>
        refine ⟨⟨?_, ?_⟩, ?_⟩ <;> simp only [changeFiles, if_neg hnul, hh, hk, and_self]
        exact a
    | changed hfiles =>
        refine ⟨⟨?_, ?_⟩, ?_⟩ <;> simp only [changeFiles, if_neg hnul, hh, hk]
        · exact a.change hfiles
        · exact ⟨rfl, rfl⟩

theorem alike_changeFiles {path : Pathname} {f : Host → Except Errno FileSystem}
    (hf : ∀ h k, Alongside P h k → EndAlike (SameBut P) (f h) (f k)) : Alike P (changeFiles path f) :=
  fun h k a => runsAlike_changeFiles a (hf h k a)

theorem RunsAlike.mono {Q : Location → Prop} (ha : RunsAlike Q act h k) (hq : ∀ q, Q q → P q) : RunsAlike P act h k :=
  { ha with after := ha.after.mono hq }

theorem runsAlike_lookOrFail {f : Host → Except Failure α} (a : Alongside P h k) (hf : f k = f h) :
    RunsAlike P (lookOrFail f) h k :=
  ⟨⟨hf, a⟩, rfl, rfl⟩

/-- What follows a change may rest on the files differing at other places after it. -/
theorem runsAlike_changeFiles_bind {Q : Location → Prop} {path : Pathname} {f : Host → Except Errno FileSystem}
    {next : Unit → Action β} (a : Alongside P h k) (hend : EndAlike (SameBut Q) (f h) (f k)) (hq : ∀ q, Q q → P q)
    (hn : ∀ fs fs', f h = .ok fs → SameBut Q fs fs' → RunsAlike Q (next ()) { h with files := fs } { k with files := fs' }) :
    RunsAlike P (changeFiles path f >>= next) h k := by
  refine (runsAlike_changeFiles a (hend.mono fun fs fs' hs => hs.mono hq)).bind fun _ h' k' hh hk _ => ?_
  obtain ⟨-, fs, hfs, rfl⟩ := changeFiles_ok hh
  obtain ⟨-, fs', hfs', rfl⟩ := changeFiles_ok hk
  rw [hfs, hfs'] at hend
  cases hend with
  | changed hfiles => exact (hn fs fs' hfs hfiles).mono hq

/-! ### Actions on files -/

theorem alike_probe {kind : Node → Bool} (hk : ∀ n n' : Node, n.Alike n' → kind n' = kind n) (p : LexicalPath) :
    Alike P (probe kind p) :=
  alike_lookOrFail fun h k a => by rw [a.workingDirectory, a.files.probe_eq hk]

theorem alike_permits {access : Node → Bool} (hk : ∀ n n' : Node, n.Alike n' → access n' = access n) (p : LexicalPath) :
    Alike P (permits access p) :=
  alike_look fun h k a => by rw [a.workingDirectory, a.files.permits_eq hk]

theorem alike_isThere (p : LexicalPath) : Alike P (isThere p) := alike_probe (fun _ _ _ => rfl) p

theorem alike_makeDirectory (p : LexicalPath) : Alike P (makeDirectory p) :=
  alike_changeFiles fun h k a => by
    rw [a.workingDirectory, a.now]
    exact a.files.makeDirectory _ _ _

theorem alike_settle (p : LexicalPath) (e : Failure) : Alike P (settle p e) :=
  alike_bind (alike_probe (fun _ _ ha => ha.isDirectory_eq) p) fun _ => alike_ite (alike_pure ()) (alike_fail e)

theorem alike_ensureDirectory (p : LexicalPath) : Alike P (ensureDirectory p) := by
  refine alike_bind (alike_attempt (alike_makeDirectory p)) fun r => ?_
  split
  · exact alike_pure ()
  · exact alike_fail _
  · exact alike_settle _ _
  · exact alike_fail _

theorem alike_makePath (p : LexicalPath) : Alike P (makePath p) := by
  unfold makePath
  induction p.names.reverse with
  | nil => exact alike_ensureDirectory _
  | cons name outer ih =>
      refine alike_bind (alike_attempt (alike_makeDirectory _)) fun r => ?_
      split
      · exact alike_pure ()
      · exact alike_bind ih fun _ => alike_ensureDirectory _
      · exact alike_settle _ _
      · exact alike_fail _

theorem alike_write (p : LexicalPath) (bytes : List UInt8) : Alike P (write p bytes) :=
  alike_changeFiles fun h k a => by
    rw [a.workingDirectory, a.now]
    exact a.files.write _ _ _ _

end Action

/-- A walk finds and passes over the same in file systems of one shape. -/
theorem Walk.index_same {fs fs' : FileSystem} (hs : fs.SameShape fs') (cwd : Location) (r : Restriction)
    (suffixes : List Pathname) (root : Pathname) : index fs' cwd r suffixes root = index fs cwd r suffixes root := by
  have hstep : step fs' cwd r suffixes = step fs cwd r suffixes := by
    funext s
    unfold step enter
    simp only [classify_eq_of_sameShape hs, contents_eq_of_sameShape hs]
  have hrun (bound : Nat) (s : State) : run fs' cwd r suffixes bound s = run fs cwd r suffixes bound s := by
    induction bound generalizing s with
    | zero => rfl
    | succ bound ih => rw [run, run, hstep, ih]
  simp only [index, enter, stepBound, hs.locate_eq, hs.isDirectoryAt_eq, hs.length_nodes_eq, contents_eq_of_sameShape hs,
    hrun]

namespace Cache

open Host RequirePath.Action

variable {P : Location → Prop} {c : Config} {h k : Host}

/-! ### The parts of a load and of a rebuild -/

theorem alike_checkFile (path : LexicalPath) : Alike P (checkFile path) := by
  refine alike_bind (alike_probe (fun _ _ ha => ha.isFile_eq) _) fun there => alike_ite (alike_fail _) ?_
  refine alike_bind (alike_permits (fun _ _ ha => ?_) _) fun readable => alike_ite (alike_fail _) (alike_pure ())
  rw [Node.readable, Node.readable, ha.1]

theorem alike_checkManifest (c : Config) : Alike P (checkManifest c) :=
  alike_bind (alike_checkFile _) fun _ => alike_checkFile _

theorem alike_ensureCacheFile (c : Config) : Alike P (ensureCacheFile c) := by
  have hplaceholder : Alike P (writePlaceholder c) :=
    alike_bind (alike_makePath _) fun _ => alike_bind (alike_makePath _) fun _ =>
      alike_bind (alike_write _ _) fun _ => alike_pure false
  refine alike_bind (alike_probe (fun _ _ ha => ha.isFile_eq) _) fun there => ?_
  cases there with
  | false => exact hplaceholder
  | true =>
      refine alike_bind (alike_permits (fun _ _ ha => ?_) _) fun usable => alike_ite (alike_pure true) hplaceholder
      rw [Node.readable, Node.readable, Node.writable, Node.writable, ha.1]

theorem alike_logNotes (notes : List Walk.Note) : Alike P (logNotes notes) := by
  have hall : ∀ h k : Host, Alongside P h k →
      RunsAlike P (change fun h =>
        notes.foldl (fun h n => h.log walkPart .debug n.message (Pathname.isText n.path)) h) h k := by
    induction notes with
    | nil => exact fun h k a => ⟨⟨rfl, a⟩, rfl, rfl⟩
    | cons n notes ih =>
        intro h k a
        obtain ⟨⟨-, hafter⟩, hrest, hrest'⟩ := ih _ _ (a.log walkPart .debug n.message (Pathname.isText n.path))
        exact ⟨⟨rfl, hafter⟩, hrest.trans (warnings_log a.console _ _ _ _), hrest'.trans (warnings_log a.console' _ _ _ _)⟩
  exact hall

theorem alike_indexLoadPaths (restriction : Walk.Restriction) (suffixes roots : List Pathname) :
    Alike P (indexLoadPaths restriction suffixes roots) := by
  induction roots with
  | nil => exact alike_pure _
  | cons root rest ih =>
      have hdirectory : Alike P (indexDirectory root restriction suffixes) := by
        refine alike_bind (alike_look fun h k a => ?_) fun found => ?_
        · rw [a.workingDirectory, Walk.index_same a.files.toSameShape]
        · exact alike_bind (alike_logNotes _) fun _ => alike_pure _
      refine alike_bind hdirectory fun found => alike_bind (alike_hostLog _ _ _ _) fun _ => ?_
      exact alike_bind ih fun others => alike_pure _

theorem alike_enumerate (c : Config) : Alike P (LoadPaths.enumerate c) := by
  refine alike_bind (alike_isThere _) fun rails => alike_bind (alike_log _ _ _) fun _ => ?_
  refine alike_bind (alike_note rfl) fun _ => alike_bind (alike_lookOrFail fun h k a => ?_) fun found => ?_
  · rw [a.continues]
  · exact alike_bind (alike_log _ _ _) fun _ => alike_pure _

/-! ### Writing a record -/

theorem temporaryPath_alongside (a : Alongside P h k) : temporaryPath c k = temporaryPath c h := by
  have hpath : k.workingPath = h.workingPath := by rw [workingPath, workingPath, a.workingDirectory]
  have hname (directory : Pathname) : freshName k directory = freshName h directory := by
    simp only [freshName, a.workingDirectory, a.files.resolve_eq, a.files.length_nodes_eq]
  simp only [temporaryPath, hpath, hname]

/-- A new file that is the same in both is given the record and moved, or removed, in both. -/
theorem runsAlike_installRecord {path : Pathname} {q : Location} (a : Alongside P h k) (c : Config) (l : Loaded) (hq : ¬P q)
    (hfound : h.files.resolve h.workingDirectory false path = .ok (.found q)) :
    RunsAlike P (installRecord c l path) h k := by
  unfold installRecord
  cases l.record? with
  | none =>
      refine alike_bind (alike_attempt (alike_changeFiles fun h k a => ?_)) (fun _ => alike_fail _) h k a
      rw [a.workingDirectory, a.now]
      exact a.files.removeFile _ _ _
  | some record =>
      refine runsAlike_changeFiles_bind a (Q := P) ?_ (fun _ hp => hp) fun fs fs' hw hfiles => ?_
      · rw [a.workingDirectory, a.now]
        exact a.files.write _ _ _ _
      · -- the file is still where it was made
        have hstill := resolve_grow (write_grows hw) hfound
        refine runsAlike_changeFiles (a.change hfiles) ?_
        dsimp only
        rw [a.workingDirectory, a.now]
        refine hfiles.rename _ fun q' hq' => ?_
        cases hstill.symm.trans (locate_eq_ok_iff.1 hq')
        exact hq

theorem alike_writeRecord (c : Config) (l : Loaded) : Alike P (writeRecord c l) := by
  rw [writeRecord_eq]
  refine alike_bind (alike_makePath _) fun _ => alike_bind (alike_makePath _) fun _ => fun h k a => ?_
  have hlook : Alike P (look (temporaryPath c)) := alike_look fun h k a => temporaryPath_alongside a
  refine (hlook h k a).bind fun path h' k' hh _ a' => ?_
  obtain ⟨hpath, rfl⟩ := Prod.mk.inj hh
  obtain rfl : temporaryPath c h = path := Except.ok.inj hpath
  have hcreate := a'.files.createPrivate h.workingDirectory (temporaryPath c h) [] h.now
  refine runsAlike_changeFiles_bind a' (by rw [a'.workingDirectory, a'.now]; exact hcreate) ?_ ?_
  · exact fun q hq => hq.1
  · intro fs fs' hfs hfiles
    obtain ⟨d, name, hv, -, hfound⟩ := createPrivate_found (endsInSlash_temporaryPath c h) hfs
    exact runsAlike_installRecord (a'.change hfiles) c l (fun hq => hq.2 d name hv rfl) (hfound false)

theorem alike_rebuild (c : Config) : Alike P (rebuild c) := by
  refine alike_bind (alike_enumerate c) fun loadPaths => alike_bind (alike_indexLoadPaths _ _ _) fun entries => ?_
  exact alike_bind (alike_writeRecord c _) fun _ => alike_bind (alike_log _ _ _) fun _ => alike_pure _

theorem alike_rebuildFor (c : Config) (reason : String) : Alike P (rebuildFor c reason) :=
  alike_bind (alike_log _ _ _) fun _ => alike_rebuild c

end Cache

end RequirePath
