import RequirePath.Proofs.Cache.Content
import RequirePath.Proofs.Cache.Leftover

/-! What a description of the cache tells of the next load. The description tries the record and compares the times of
files; a load asks first whether the cache file may be read and written. Where a load gets as far as its decision, both
come to the same: it runs the load-path command if the cache is called stale, and gives the record that was counted if
not. -/

namespace RequirePath

open FileSystem RequirePath.Action

namespace Host

def SameRuns (h h' : Host) : Prop := h'.toolRuns = h.toolRuns

theorem frame_sameRuns : Frame SameRuns where
  refl _ := rfl
  trans a b := Eq.trans b a
  note h e he := by simp [SameRuns, toolRuns, note, he]

theorem sameRuns_files (h : Host) (fs : FileSystem) : SameRuns h { h with files := fs } := rfl

theorem toolRuns_note_ranTool (h : Host) (command : List String) (directory : Pathname) :
    (h.note (.ranTool command directory)).toolRuns = h.toolRuns ++ [(command, directory)] := by
  simp [toolRuns, note, Event.toolRun?]

end Host

namespace Action

variable {α β : Type} {R : Host → Host → Prop} {act : Action α} {next : α → Action β} {h : Host}

theorem within_after (hf : Host.Frame R) (hn : ∀ a, Within R (next a)) (hc : (act h).2.LogsToConsole) :
    R (act h).2 ((act >>= next) h).2 := by
  rw [bind_eq]
  rcases hact : act h with ⟨e | a, h'⟩
  · exact hf.refl _
  · rw [hact] at hc
    exact (hn a h' hc).2

end Action

namespace Cache

variable {c : Config} {l : Loaded} {h h' : Host} {r : Except Failure Loaded} {report : CacheReport}

/-! ### Runs of the load-path command -/

theorem sameRuns_of_ensureCacheFile {usable : Except Failure Bool} (hc : h.LogsToConsole)
    (ha : ensureCacheFile c h = (usable, h')) : h.SameRuns h' := by
  have hf := Host.frame_sameRuns
  have hpath := within_makePath_of_files Host.sameRuns_files
  have hplaceholder : Within Host.SameRuns (writePlaceholder c) :=
    within_bind hf (hpath _) fun _ => within_bind hf (hpath _) fun _ =>
      within_bind hf (within_changeFiles hf fun h fs _ => Host.sameRuns_files h fs) fun _ => within_pure hf _
  rcases ensureCacheFile_cases ha with ⟨rfl, -⟩ | ⟨rfl, -⟩ | ⟨-, hp⟩
  · exact hf.refl _
  · exact hf.refl _
  · exact (hplaceholder.of_eq hc hp).2

theorem enumerate_runs {rails : Bool} (hc : h.LogsToConsole) (hrails : LoadPaths.isRailsProject c h = (.ok rails, h)) :
    (LoadPaths.enumerate c h).2.toolRuns = h.toolRuns ++ [(LoadPaths.command rails, c.workingTree)] := by
  have hf := Host.frame_sameRuns
  let shown := String.intercalate " " ((LoadPaths.command rails).take 4)
  let s := (Action.log LoadPaths.part .info s!"[owl:load_paths] running: {shown} ..." h).2
  obtain ⟨hs, hruns⟩ : h.Continues s ∧ h.SameRuns s := within_log hf _ _ _ h hc
  -- once the run is noted, only its output is read and logged
  have hrest : Within Host.SameRuns (do
      let found ← lookOrFail fun h => LoadPaths.ofRun (LoadPaths.command rails) h.tool
      Action.log LoadPaths.part .debug s!"[owl:load_paths] {found.length} load paths"
      pure found) :=
    within_bind hf (within_lookOrFail hf _) fun _ => within_bind hf (within_log hf _ _ _) fun _ => within_pure hf _
  have hafter := (hrest (s.note (.ranTool (LoadPaths.command rails) c.workingTree)) (hs.logsToConsole hc)).2
  unfold LoadPaths.enumerate
  rw [bind_of_ok hrails]
  exact hafter.trans (by rw [Host.toolRuns_note_ranTool, hruns])

/-- A rebuild runs the load-path command once, unless it cannot find out which command that is. -/
theorem rebuild_runs (hc : h.LogsToConsole) (ha : rebuild c h = (r, h')) :
    (∃ rails, (LoadPaths.isRailsProject c h).1 = .ok rails ∧
      h'.toolRuns = h.toolRuns ++ [(LoadPaths.command rails, c.workingTree)]) ∨
      h' = h ∧ ∃ e, r = .error e ∧ (LoadPaths.isRailsProject c h).1 = .error e := by
  rcases hrails : LoadPaths.isRailsProject c h with ⟨e | rails, s⟩
  · obtain rfl : s = h := (congrArg Prod.snd hrails).symm
    have henumerate : LoadPaths.enumerate c s = (.error e, s) := bind_of_error hrails
    unfold rebuild at ha
    rw [bind_of_error henumerate] at ha
    obtain ⟨rfl, rfl⟩ := Prod.mk.inj ha
    exact Or.inr ⟨rfl, e, rfl, rfl⟩
  · obtain rfl : s = h := (congrArg Prod.snd hrails).symm
    have hf := Host.frame_sameRuns
    have hcontinues := (within_enumerate frame_rests (fun _ _ => rfl) c s hc).1
    have hrest : Host.SameRuns (LoadPaths.enumerate c s).2 (rebuild c s).2 := by
      refine within_after hf (fun loadPaths => ?_) (hcontinues.logsToConsole hc)
      refine within_bind hf (within_indexLoadPaths hf _ _ _) fun entries => ?_
      refine within_bind hf (within_writeRecord hf Host.sameRuns_files c _) fun _ => ?_
      exact within_bind hf (within_log hf _ _ _) fun _ => within_pure hf _
    rw [Host.SameRuns, ha, enumerate_runs hc hrails] at hrest
    exact Or.inl ⟨rails, rfl, hrest⟩

/-! ### Loads that go on to the command -/

/-- Why a load fails before it runs the load-path command: the cache file cannot be prepared, a corrupt cache is not to be
rebuilt, or it cannot be found out which command is to be run. -/
inductive EndsEarly (c : Config) (h : Host) : Failure → Prop
  | unprepared {e : Failure} {h' : Host} (ensure : ensureCacheFile c h = (.error e, h')) : EndsEarly c h e
  | strict {path reason : String} (policy : c.onCorruptCache = .fail) (usable : Usable c h)
      (fresh : ¬timeAt h c.cacheFilePath < timeAt h c.gemfileLockPath)
      (corrupt : (readRecord c.cacheFilePath h).1 = .error (.cacheCorrupt path reason)) :
      EndsEarly c h (.cacheCorrupt path reason)
  | unmarked {e : Failure} {usable : Bool} {h' : Host} (ensure : ensureCacheFile c h = (.ok usable, h'))
      (marker : (LoadPaths.isRailsProject c h').1 = .error e) : EndsEarly c h e

/-- A load runs the load-path command, or fails before it comes to that. -/
def RunsOrEnds (c : Config) (h : Host) (r : Except Failure Loaded) (h' : Host) : Prop :=
  (∃ command, h'.toolRuns = h.toolRuns ++ [(command, c.workingTree)]) ∨
    h'.toolRuns = h.toolRuns ∧ ∃ e, r = .error e ∧ EndsEarly c h e

theorem isRailsProject_of_idles {s : Host} (hs : h.Continues s) (hi : h.Idles s) :
    (LoadPaths.isRailsProject c s).1 = (LoadPaths.isRailsProject c h).1 := by
  simp only [LoadPaths.isRailsProject, Action.isThere, Action.probe, lookOrFail, hi.1, hs.workingDirectory]

theorem runsOrEnds_of_rebuild {usable : Bool} {s s' : Host} (hc : h.LogsToConsole)
    (hensure : ensureCacheFile c h = (.ok usable, s)) (hs : s.Continues s') (hi : s.Idles s')
    (ha : rebuild c s' = (r, h')) : RunsOrEnds c h r h' := by
  have hc' := hs.logsToConsole ((ensureCacheFile_continues hensure).logsToConsole hc)
  have hruns : s'.toolRuns = h.toolRuns := hi.2.trans (sameRuns_of_ensureCacheFile hc hensure)
  rcases rebuild_runs hc' ha with ⟨rails, -, hran⟩ | ⟨rfl, e, rfl, hmarker⟩
  · exact Or.inl ⟨LoadPaths.command rails, by rw [hran, hruns]⟩
  · rw [isRailsProject_of_idles hs hi] at hmarker
    exact Or.inr ⟨hruns, e, rfl, .unmarked hensure hmarker⟩

/-- A load runs the load-path command or fails before, if the cache file cannot be used, is older than the lock file or
is corrupt. -/
theorem loadOrRebuild_runs (hc : h.LogsToConsole) (hg : IsManifest h c.gemfilePath) (hl : IsManifest h c.gemfileLockPath)
    (hnul : Pathname.holdsNul c.cacheFilePath.spelling = false)
    (hstale : Usable c h → timeAt h c.cacheFilePath < timeAt h c.gemfileLockPath ∨
      ∃ path reason, (readRecord c.cacheFilePath h).1 = .error (.cacheCorrupt path reason))
    (ha : loadOrRebuild c h = (r, h')) : RunsOrEnds c h r h' := by
  rw [loadOrRebuild_eq, bind_of_ok (checkManifest_of_isManifest hg hl)] at ha
  rcases bind_cases ha with ⟨e, hensure, rfl⟩ | ⟨usable, s, hensure, hgo⟩
  · exact Or.inr ⟨sameRuns_of_ensureCacheFile hc hensure, e, rfl, .unprepared hensure⟩
  have hcs := (ensureCacheFile_continues hensure).logsToConsole hc
  obtain ⟨s₁, hs₁, hi₁, hproceed⟩ := proceed_eq hcs hg.1 hl.1 hnul usable
  rw [hproceed] at hgo
  -- each way to a rebuild logs a record before it
  have hlogged : ∀ level message, (Action.log part level message >>= fun _ => rebuild c) s₁ = (r, h') →
      RunsOrEnds c h r h' := by
    intro level message hlast
    obtain ⟨hs₂, hi₂⟩ := within_log Host.frame_idles part level message s₁ (hs₁.logsToConsole hcs)
    exact runsOrEnds_of_rebuild hc hensure (hs₁.trans hs₂) (Host.frame_idles.trans hi₁ hi₂) hlast
  cases usable with
  | false => exact hlogged _ _ hgo
  | true =>
      obtain ⟨rfl, hu⟩ := ensureCacheFile_true hensure
      rw [if_neg (by decide)] at hgo
      by_cases ht : timeAt s c.cacheFilePath < timeAt s c.gemfileLockPath
      · rw [if_pos ht] at hgo
        exact hlogged _ _ hgo
      · obtain ⟨path, reason, hcorrupt⟩ := (hstale hu).resolve_left ht
        have hsame : (readRecord c.cacheFilePath s₁).1 = (readRecord c.cacheFilePath s).1 := by
          simp only [readRecord, lookOrFail, hi₁.1, hs₁.workingDirectory]
        rw [if_neg ht, readOrRebuild_eq, hsame, hcorrupt, useRecord] at hgo
        by_cases hpolicy : c.onCorruptCache = .fail
        · rw [if_pos hpolicy] at hgo
          obtain ⟨rfl, rfl⟩ := Prod.mk.inj hgo
          exact Or.inr ⟨hi₁.2, _, rfl, .strict hpolicy hu ht hcorrupt⟩
        · rw [if_neg hpolicy] at hgo
          exact hlogged _ _ hgo

/-! ### Descriptions -/

/-- A description says that nothing is at the path of the cache file, or that it cannot be read as a record, or counts the
record that it holds. -/
theorem status_ok (ha : status c h = (.ok report, h')) :
    Pathname.holdsNul c.cacheFilePath.spelling = false ∧
      report.cacheTime = h.files.modified? h.workingDirectory c.cacheFilePath.spelling ∧
      report.lockTime = h.files.modified? h.workingDirectory c.gemfileLockPath.spelling ∧
      (report.isThere = false ∧ ¬Usable c h ∨
        report.readable = false ∧ (∃ path reason, (readRecord c.cacheFilePath h).1 = .error (.cacheCorrupt path reason)) ∨
        report.isThere = true ∧ report.readable = true ∧ ∃ record, Holds c h record ∧
          report.loadPathCount = some record.loadPaths.length ∧ report.entryCount = some record.entries.length) := by
  unfold status at ha
  dsimp only at ha
  obtain ⟨isThere, h₁, hthere, hcacheTime⟩ := of_bind_ok ha
  obtain ⟨cacheTime, h₂, hcache, hlockTime⟩ := of_bind_ok hcacheTime
  obtain ⟨lockTime, h₃, hlock, hgemfileTime⟩ := of_bind_ok hlockTime
  obtain ⟨gemfileTime, h₄, hgemfile, hrest⟩ := of_bind_ok hgemfileTime
  obtain ⟨rfl, hprobe⟩ := probe_ok hthere
  obtain ⟨hnul, rfl, rfl⟩ := modified?_ok hcache
  obtain ⟨-, rfl, rfl⟩ := modified?_ok hlock
  obtain ⟨-, rfl, rfl⟩ := modified?_ok hgemfile
  cases isThere with
  | false =>
      obtain ⟨hreport, rfl⟩ := Prod.mk.inj hrest
      obtain rfl := Except.ok.inj hreport
      refine ⟨hnul, rfl, rfl, Or.inl ⟨rfl, ?_⟩⟩
      rintro ⟨-, n, hs, -⟩
      rw [FileSystem.probe, hnul, hs] at hprobe
      cases hprobe
  | true =>
      rw [if_neg (by decide)] at hrest
      rcases hread : readRecord c.cacheFilePath h₄ with ⟨e | record, s⟩
      · obtain rfl : s = h₄ := (congrArg Prod.snd hread).symm
        rw [bind_of_ok (attempt_eq hread)] at hrest
        cases e with
        | cacheCorrupt path reason =>
            obtain ⟨hreport, -⟩ := Prod.mk.inj hrest
            obtain rfl := Except.ok.inj hreport
            exact ⟨hnul, rfl, rfl, Or.inr (Or.inl ⟨rfl, path, reason, rfl⟩)⟩
        | _ => cases hrest
      · obtain ⟨rfl, hholds⟩ := readRecord_ok hread
        rw [bind_of_ok (attempt_eq hread)] at hrest
        obtain ⟨hreport, -⟩ := Prod.mk.inj hrest
        obtain rfl := Except.ok.inj hreport
        exact ⟨hnul, rfl, rfl, Or.inr (Or.inr ⟨rfl, rfl, record, hholds, rfl, rfl⟩)⟩

theorem isStale_of_readable {n m : Node} (hthere : report.isThere = true) (hreadable : report.readable = true)
    (hcache : report.cacheTime = h.files.modified? h.workingDirectory c.cacheFilePath.spelling)
    (hlock : report.lockTime = h.files.modified? h.workingDirectory c.gemfileLockPath.spelling)
    (hn : h.files.status h.workingDirectory c.cacheFilePath.spelling = .ok n)
    (hm : h.files.status h.workingDirectory c.gemfileLockPath.spelling = .ok m) :
    report.isStale = decide (timeAt h c.cacheFilePath < timeAt h c.gemfileLockPath) := by
  rw [FileSystem.modified?, hn] at hcache
  rw [FileSystem.modified?, hm] at hlock
  rw [timeAt, timeAt, FileSystem.modified?, FileSystem.modified?, hn, hm]
  simp [CacheReport.isStale, CacheReport.later, hthere, hreadable, hcache, hlock]

/-- A cache file that holds a record is described with its counts. -/
theorem status_of_holds {record : Record} (hg : Pathname.holdsNul c.gemfilePath.spelling = false)
    (hl : Pathname.holdsNul c.gemfileLockPath.spelling = false) (hh : Holds c h record) :
    status c h = (.ok ⟨c.cacheFilePath, true, true, h.files.modified? h.workingDirectory c.cacheFilePath.spelling,
      h.files.modified? h.workingDirectory c.gemfileLockPath.spelling,
      h.files.modified? h.workingDirectory c.gemfilePath.spelling, some record.loadPaths.length,
      some record.entries.length⟩, h) := by
  have hread := readRecord_of_holds hh
  obtain ⟨hnul, bytes, hbytes, -⟩ := hh
  obtain ⟨n, hn, -⟩ := read_eq_ok_iff.1 hbytes
  have hthere : Action.isThere c.cacheFilePath h = (.ok true, h) := probe_of_status hnul hn
  unfold status
  dsimp only
  rw [bind_of_ok hthere, bind_of_ok (modified?_eq hnul), bind_of_ok (modified?_eq hl), bind_of_ok (modified?_eq hg),
    if_neg (by decide), bind_of_ok (attempt_eq hread)]
  rfl

/-- What a stale cache means for a load: it is not usable, it is older than the lock file, or it is corrupt. -/
theorem stale_of_status (hl : IsManifest h c.gemfileLockPath) (ha : status c h = (.ok report, h'))
    (hstale : report.isStale = true) (hu : Usable c h) :
    timeAt h c.cacheFilePath < timeAt h c.gemfileLockPath ∨
      ∃ path reason, (readRecord c.cacheFilePath h).1 = .error (.cacheCorrupt path reason) := by
  obtain ⟨-, hcache, hlock, hcases⟩ := status_ok ha
  rcases hcases with ⟨-, hnot⟩ | ⟨-, hcorrupt⟩ | ⟨hthere, hreadable, -⟩
  · exact absurd hu hnot
  · exact Or.inr hcorrupt
  · obtain ⟨-, n, hn, -⟩ := hu
    obtain ⟨-, m, hm, -⟩ := hl
    rw [isStale_of_readable hthere hreadable hcache hlock hn hm] at hstale
    exact Or.inl (of_decide_eq_true hstale)

/-- What a cache that is not stale means for a load: it holds the record that was counted and is not older than the lock
file. -/
theorem fresh_of_status (hl : IsManifest h c.gemfileLockPath) (ha : status c h = (.ok report, h'))
    (hstale : report.isStale = false) :
    ¬timeAt h c.cacheFilePath < timeAt h c.gemfileLockPath ∧ ∃ record, Holds c h record ∧
      report.loadPathCount = some record.loadPaths.length ∧ report.entryCount = some record.entries.length := by
  obtain ⟨-, hcache, hlock, hcases⟩ := status_ok ha
  rcases hcases with ⟨hthere, -⟩ | ⟨hreadable, -⟩ | ⟨hthere, hreadable, record, hholds, hcounts⟩
  · simp [CacheReport.isStale, hthere] at hstale
  · simp [CacheReport.isStale, hreadable] at hstale
  · refine ⟨?_, record, hholds, hcounts⟩
    obtain ⟨-, bytes, hread, -⟩ := hholds
    obtain ⟨n, hn, -⟩ := read_eq_ok_iff.1 hread
    obtain ⟨-, m, hm, -⟩ := hl
    rw [isStale_of_readable hthere hreadable hcache hlock hn hm] at hstale
    exact of_decide_eq_false hstale

theorem Holds.usable {record : Record} (hh : Holds c h record)
    (hw : h.files.permits h.workingDirectory c.cacheFilePath.spelling Node.writable = true) : Usable c h := by
  obtain ⟨hnul, bytes, hread, -⟩ := hh
  obtain ⟨n, hn, hr, hcontent⟩ := read_eq_ok_iff.1 hread
  rw [FileSystem.permits, hn] at hw
  exact ⟨hnul, n, hn, Node.isFile_iff.2 ⟨bytes, hcontent⟩, hr, hw⟩

end Cache

namespace Store

open Cache

variable {c : Config} {loaded : Option Loaded} {h h' later : Host} {report : CacheReport}

/-- The project of the sample with its record in the cache file. -/
def recordedHost : Host := sampleCached (Record.encode ⟨["/lib"], ["/lib/x.rb"]⟩)

end Store

end RequirePath
