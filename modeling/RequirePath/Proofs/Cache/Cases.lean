import RequirePath.Proofs.Cache.Write

/-! How a load and a rebuild can end, and which files each end has changed before. What is between two changes
of files leaves them alone. -/

namespace RequirePath.Cache

open FileSystem RequirePath.Action

variable {c : Config} {l : Loaded} {h h' : Host} {e : Failure} {r : Except Failure Loaded}

/-- The machine goes on with the same files. -/
structure Rests (h h' : Host) : Prop where
  continues : h.Continues h'
  files : h'.files = h.files

theorem Rests.trans {h'' : Host} (a : Rests h h') (b : Rests h' h'') : Rests h h'' :=
  ⟨a.continues.trans b.continues, b.files.trans a.files⟩

theorem rests_of_within {α : Type} {act : Action α} {r : Except Failure α} (hw : Within (Host.OnFiles fun a b => b = a) act)
    (hc : h.LogsToConsole) (ha : act h = (r, h')) : Rests h h' := by
  obtain ⟨hs, hr⟩ := hw.of_eq hc ha
  exact ⟨hs, hr⟩

theorem frame_rests : Host.Frame (Host.OnFiles fun a b => b = a) :=
  Host.frame_onFiles (fun _ => rfl) fun a b => b.trans a

/-- The machine goes on with the same files, and the load-path command is not run. -/
structure Pauses (h h' : Host) : Prop extends Rests h h' where
  toolRuns : h'.toolRuns = h.toolRuns

theorem Pauses.trans {h'' : Host} (a : Pauses h h') (b : Pauses h' h'') : Pauses h h'' :=
  ⟨a.toRests.trans b.toRests, b.toolRuns.trans a.toolRuns⟩

theorem pauses_of_within {α : Type} {act : Action α} {r : Except Failure α} (hw : Within Host.Idles act)
    (hc : h.LogsToConsole) (ha : act h = (r, h')) : Pauses h h' := by
  obtain ⟨hs, hidle⟩ := hw.of_eq hc ha
  exact ⟨⟨hs, hidle.1⟩, hidle.2⟩

theorem within_writeRecord {R : Host → Host → Prop} (hf : Host.Frame R) (hr : ∀ h fs, R h { h with files := fs })
    (c : Config) (l : Loaded) : Within R (writeRecord c l) := by
  have hchange (path : Pathname) (f : Host → Except Errno FileSystem) : Within R (changeFiles path f) :=
    within_changeFiles hf fun h fs _ => hr h fs
  have hinstall (path : Pathname) : Within R (installRecord c l path) := by
    unfold installRecord
    cases l.record? with
    | none => exact within_bind hf (within_attempt (hchange _ _)) fun _ => within_fail hf _
    | some record => exact within_bind hf (hchange _ _) fun _ => hchange _ _
  have hpath := within_makePath_of_files hr
  rw [writeRecord_eq]
  refine within_bind hf (hpath _) fun _ => within_bind hf (hpath _) fun _ => ?_
  exact within_bind hf (within_look hf _) fun path => within_bind hf (hchange _ _) fun _ => hinstall path

/-- Whatever happens to the files, the writing of a record leaves the rest of the machine as it was. -/
theorem writeRecord_continues {r : Except Failure Unit} (hc : h.LogsToConsole) (ha : writeRecord c l h = (r, h')) :
    h.Continues h' := by
  have hf : Host.Frame (Host.OnFiles fun _ _ => True) := Host.frame_onFiles (fun _ => trivial) fun _ _ => trivial
  exact ((within_writeRecord hf (fun _ _ => trivial) c l).of_eq hc ha).1

/-! ### Rebuilding -/

/-- A rebuild changes files only by writing the record of what it gives. -/
theorem rebuild_cases (hc : h.LogsToConsole) (ha : rebuild c h = (r, h')) :
    (Rests h h' ∧ ∃ e, r = .error e) ∨
    ∃ l h₁ r₂ h₂, Rests h h₁ ∧ l.rebuilt = true ∧ writeRecord c l h₁ = (r₂, h₂) ∧
      ((∃ e, r₂ = .error e ∧ r = .error e ∧ h' = h₂) ∨ r₂ = .ok () ∧ r = .ok l ∧ Rests h₂ h') := by
  unfold rebuild at ha
  have hnote : ∀ (h : Host) (e : Event), Host.OnFiles (fun a b => b = a) h (h.note e) := fun _ _ => rfl
  rcases bind_cases ha with ⟨e, h₁, he⟩ | ⟨loadPaths, s₁, h₁, hindex⟩
  · exact Or.inl ⟨rests_of_within (within_enumerate frame_rests hnote c) hc h₁, e, he⟩
  have hrest₁ := rests_of_within (within_enumerate frame_rests hnote c) hc h₁
  have hc₁ := hrest₁.continues.logsToConsole hc
  rcases bind_cases hindex with ⟨e, h₂, he⟩ | ⟨entries, s₂, h₂, hwrite⟩
  · exact Or.inl ⟨hrest₁.trans (rests_of_within (within_indexLoadPaths frame_rests _ _ _) hc₁ h₂), e, he⟩
  have hrest₂ := hrest₁.trans (rests_of_within (within_indexLoadPaths frame_rests _ _ _) hc₁ h₂)
  have hc₂ := hrest₂.continues.logsToConsole hc
  refine Or.inr ⟨⟨loadPaths, entries, true⟩, s₂, ?_⟩
  rcases bind_cases hwrite with ⟨e, h₃, he⟩ | ⟨u, s₃, h₃, hlast⟩
  · exact ⟨_, h', hrest₂, rfl, h₃, Or.inl ⟨e, rfl, he, rfl⟩⟩
  · have hlog := within_log frame_rests part .info
      s!"[owl:cache] cached {loadPaths.length} load paths, {entries.length} entries"
    obtain ⟨hs, hr⟩ := hlog s₃ ((writeRecord_continues hc₂ h₃).logsToConsole hc₂)
    obtain ⟨rfl, rfl⟩ := Prod.mk.inj hlast
    exact ⟨_, s₃, hrest₂, rfl, h₃, Or.inr ⟨rfl, rfl, hs, hr⟩⟩

/-! ### The check of the cache file -/

/-- The path of the cache file leads to a file that may be read and written. -/
def Usable (c : Config) (h : Host) : Prop :=
  Pathname.holdsNul c.cacheFilePath.spelling = false ∧
    ∃ n, h.files.status h.workingDirectory c.cacheFilePath.spelling = .ok n ∧ n.isFile = true ∧
      n.readable = true ∧ n.writable = true

/-- Writes the placeholder, and the directories that it needs. -/
def writePlaceholder (c : Config) : Action Bool := do
  makePath c.cacheDirPath
  makePath c.compilerCachePath
  Action.write c.cacheFilePath Record.placeholder
  pure false

/-- The check of a usable cache file gives yes and changes nothing; else it fails without a change, or writes
the placeholder. -/
theorem ensureCacheFile_cases {r : Except Failure Bool} (ha : ensureCacheFile c h = (r, h')) :
    (h' = h ∧ ∃ e, r = .error e) ∨ (h' = h ∧ r = .ok true ∧ Usable c h) ∨
      ¬Usable c h ∧ writePlaceholder c h = (r, h') := by
  unfold ensureCacheFile at ha
  rcases bind_cases ha with ⟨e, hp, he⟩ | ⟨there, s₁, hp, hgo⟩
  · exact Or.inl ⟨(congrArg Prod.snd hp).symm, e, he⟩
  obtain ⟨rfl, hprobe⟩ := probe_ok hp
  cases there with
  | false =>
      refine Or.inr (Or.inr ⟨?_, hgo⟩)
      rintro ⟨hnul, n, hs, hfile, -⟩
      rw [FileSystem.probe, hnul, hs] at hprobe
      simp [hfile] at hprobe
  | true =>
      obtain ⟨hnul, n, hs, hfile⟩ := probe_true_iff.1 hprobe
      have hpermits : Action.permits (fun n => n.readable && n.writable) c.cacheFilePath s₁ =
          (.ok (n.readable && n.writable), s₁) := permits_of_status hs
      replace hgo : (Action.permits (fun n => n.readable && n.writable) c.cacheFilePath >>= fun usable =>
          if usable = true then pure true else writePlaceholder c) s₁ = (r, h') := hgo
      rw [bind_of_ok hpermits] at hgo
      cases haccess : (n.readable && n.writable) with
      | true =>
          rw [haccess] at hgo
          obtain ⟨rfl, rfl⟩ := Prod.mk.inj hgo
          rw [Bool.and_eq_true] at haccess
          exact Or.inr (Or.inl ⟨rfl, rfl, hnul, n, hs, hfile, haccess.1, haccess.2⟩)
      | false =>
          rw [haccess] at hgo
          refine Or.inr (Or.inr ⟨?_, hgo⟩)
          rintro ⟨-, n', hs', -, hr, hw⟩
          rw [hs, Except.ok.injEq] at hs'
          subst hs'
          rw [hr, hw] at haccess
          cases haccess

/-- The placeholder is written after the directories are made, or the making or the writing ends it. -/
theorem writePlaceholder_cases {r : Except Failure Bool} (ha : writePlaceholder c h = (r, h')) :
    ∃ r₁ h₁, makePath c.cacheDirPath h = (r₁, h₁) ∧
      (h' = h₁ ∧ (∃ e, r = .error e) ∨ ∃ r₂ h₂, makePath c.compilerCachePath h₁ = (r₂, h₂) ∧
        (h' = h₂ ∧ (∃ e, r = .error e) ∨ ∃ fs, Pathname.holdsNul c.cacheFilePath.spelling = false ∧
          h₂.files.write h₂.workingDirectory c.cacheFilePath.spelling Record.placeholder h₂.now = .ok fs ∧
          h' = { h₂ with files := fs } ∧ r = .ok false)) := by
  unfold writePlaceholder at ha
  obtain ⟨r₁, s₁, h₁, hstop | ⟨r₂, s₂, h₂, hstop | hnext⟩⟩ := makeDirectories_cases ha
  · exact ⟨r₁, s₁, h₁, Or.inl hstop⟩
  · exact ⟨r₁, s₁, h₁, Or.inr ⟨r₂, s₂, h₂, Or.inl hstop⟩⟩
  refine ⟨r₁, s₁, h₁, Or.inr ⟨r₂, s₂, h₂, ?_⟩⟩
  rcases bind_cases hnext with ⟨e, h₃, he⟩ | ⟨u, s₃, h₃, hlast⟩
  · exact Or.inl ⟨changeFiles_error h₃, e, he⟩
  · obtain ⟨hnul, fs, hfs, rfl⟩ := changeFiles_ok h₃
    obtain ⟨rfl, rfl⟩ := Prod.mk.inj hlast
    exact Or.inr ⟨fs, hnul, hfs, rfl, rfl⟩

/-- The check of the cache file leaves the rest of the machine as it was. -/
theorem ensureCacheFile_continues {r : Except Failure Bool} (ha : ensureCacheFile c h = (r, h')) :
    h.Continues h' := by
  rcases ensureCacheFile_cases ha with ⟨rfl, -⟩ | ⟨rfl, -⟩ | ⟨-, hp⟩
  · rfl
  · rfl
  · obtain ⟨r₁, s₁, h₁, hend⟩ := writePlaceholder_cases hp
    have hs₁ := (makePath_keeps h₁).1
    rcases hend with ⟨rfl, -⟩ | ⟨r₂, s₂, h₂, ⟨rfl, -⟩ | ⟨fs, -, -, rfl, -⟩⟩
    · rw [Host.Continues, hs₁]
    · rw [Host.Continues, (makePath_keeps h₂).1, hs₁]
    · rw [Host.Continues, (makePath_keeps h₂).1, hs₁]

/-- The answer yes means that the cache file can be used and that nothing was changed. -/
theorem ensureCacheFile_true (ha : ensureCacheFile c h = (.ok true, h')) : h' = h ∧ Usable c h := by
  rcases ensureCacheFile_cases ha with ⟨-, e, he⟩ | ⟨hh, -, hu⟩ | ⟨-, hp⟩
  · cases he
  · exact ⟨hh, hu⟩
  · obtain ⟨r₁, s₁, -, ⟨-, e, he⟩ | ⟨r₂, s₂, -, ⟨-, e, he⟩ | ⟨fs, -, -, -, he⟩⟩⟩ := writePlaceholder_cases hp
    · cases he
    · cases he
    · cases he

/-! ### Loading -/

/-- The time of what a path leads to, the epoch if there is none. -/
def timeAt (h : Host) (path : LexicalPath) : Dyadic :=
  (h.files.modified? h.workingDirectory path.spelling).getD 0

/-- The cache file holds a record. -/
def Holds (c : Config) (h : Host) (record : Record) : Prop :=
  Pathname.holdsNul c.cacheFilePath.spelling = false ∧
    ∃ bytes, h.files.read h.workingDirectory c.cacheFilePath.spelling = .ok bytes ∧
      Record.decode c.cacheFilePath.display bytes = .ok record

/-- A file of the project that may be read. -/
def IsManifest (h : Host) (path : LexicalPath) : Prop :=
  Pathname.holdsNul path.spelling = false ∧
    ∃ n, h.files.status h.workingDirectory path.spelling = .ok n ∧ n.isFile = true ∧ n.readable = true

theorem checkManifest_ok {u : Unit} (ha : checkManifest c h = (.ok u, h')) :
    h' = h ∧ IsManifest h c.gemfilePath ∧ IsManifest h c.gemfileLockPath := by
  obtain ⟨_, h₁, hg, hl⟩ := of_bind_ok ha
  obtain ⟨rfl, hgem⟩ := checkFile_ok hg
  obtain ⟨rfl, hlock⟩ := checkFile_ok hl
  exact ⟨rfl, hgem, hlock⟩

theorem checkManifest_of_isManifest (hg : IsManifest h c.gemfilePath) (hl : IsManifest h c.gemfileLockPath) :
    checkManifest c h = (.ok (), h) := by
  obtain ⟨hnul, n, hs, hf, hr⟩ := hg
  obtain ⟨hnul', n', hs', hf', hr'⟩ := hl
  unfold checkManifest
  rw [bind_of_ok (checkFile_of_status hnul hs hf hr)]
  exact checkFile_of_status hnul' hs' hf' hr'

theorem readRecord_ok {record : Record} (ha : readRecord c.cacheFilePath h = (.ok record, h')) :
    h' = h ∧ Holds c h record := by
  obtain ⟨hres, rfl⟩ := Prod.mk.inj ha
  dsimp only at hres
  split_ifs at hres with hnul
  cases hr : h.files.read h.workingDirectory c.cacheFilePath.spelling with
  | error e => simp [hr] at hres
  | ok bytes =>
      rw [hr] at hres
      exact ⟨rfl, by simpa using hnul, bytes, hr, hres⟩

theorem readRecord_of_holds {record : Record} (hh : Holds c h record) :
    readRecord c.cacheFilePath h = (.ok record, h) := by
  obtain ⟨hnul, bytes, hr, hd⟩ := hh
  simp [readRecord, lookOrFail, hnul, hr, hd]

/-- What a load does with a cache file that is not older than the lock file. -/
def readOrRebuild (c : Config) : Action Loaded := do
  match ← attempt (readRecord c.cacheFilePath) with
  | .ok record => do
    let l := Loaded.ofRecord record
    Action.log part .debug <|
      s!"[owl:cache] loaded {l.loadPaths.length} load paths, " ++
        s!"{l.entries.length} entries from {c.cacheFilePath.display}"
    pure l
  | .error (.cacheCorrupt path reason) =>
    if c.onCorruptCache = .fail then fail (.cacheCorrupt path reason)
    else do
      Action.log part .warning s!"[owl:cache] {(Failure.cacheCorrupt path reason).message}; rebuilding"
      rebuild c
  | .error e => fail e

/-- What a load does once it knows whether the cache file can be used. -/
def proceed (c : Config) (usable : Bool) : Action Loaded := do
  warnIfLockStale c
  let lockTime ← timeOf c.gemfileLockPath
  let cacheTime ← timeOf c.cacheFilePath
  if !usable then rebuildFor c "cache missing"
  else if cacheTime < lockTime then rebuildFor c "Gemfile.lock is newer than cache"
  else readOrRebuild c

theorem loadOrRebuild_eq : loadOrRebuild c = (do
    checkManifest c
    let usable ← ensureCacheFile c
    proceed c usable) := by
  rfl

theorem rebuildFor_eq {reason : String} (hc : h.LogsToConsole) (ha : rebuildFor c reason h = (r, h')) :
    ∃ h₁, Pauses h h₁ ∧ rebuild c h₁ = (r, h') := by
  unfold rebuildFor at ha
  exact ⟨_, pauses_of_within (within_log Host.frame_idles _ _ _) hc rfl, ha⟩

/-- A cache file that is read gives its record; a cache file that holds none may be rebuilt. -/
theorem readOrRebuild_cases (hc : h.LogsToConsole) (ha : readOrRebuild c h = (r, h')) :
    (Rests h h' ∧ ∃ e, r = .error e) ∨
    (Rests h h' ∧ ∃ record, Holds c h record ∧ r = .ok (Loaded.ofRecord record)) ∨
    ∃ h₁, Pauses h h₁ ∧ rebuild c h₁ = (r, h') := by
  unfold readOrRebuild at ha
  rcases hread : readRecord c.cacheFilePath h with ⟨e | record, s⟩
  · have hs : s = h := (congrArg Prod.snd hread).symm
    rw [hs] at hread
    replace ha := (bind_of_ok (attempt_eq hread)).symm.trans ha
    cases e with
    | cacheCorrupt path reason =>
        by_cases hpolicy : c.onCorruptCache = .fail
        · replace ha := (congrFun (if_pos hpolicy) h).symm.trans ha
          obtain ⟨rfl, rfl⟩ := Prod.mk.inj ha
          exact Or.inl ⟨⟨rfl, rfl⟩, _, rfl⟩
        · replace ha := (congrFun (if_neg hpolicy) h).symm.trans ha
          exact Or.inr (Or.inr ⟨_, pauses_of_within (within_log Host.frame_idles _ _ _) hc rfl, ha⟩)
    | _ =>
        obtain ⟨rfl, rfl⟩ := Prod.mk.inj ha
        exact Or.inl ⟨⟨rfl, rfl⟩, _, rfl⟩
  · obtain ⟨rfl, hholds⟩ := readRecord_ok hread
    replace ha := (bind_of_ok (attempt_eq hread)).symm.trans ha
    obtain ⟨hs, hr⟩ := within_log frame_rests part .debug
      (s!"[owl:cache] loaded {(Loaded.ofRecord record).loadPaths.length} load paths, " ++
        s!"{(Loaded.ofRecord record).entries.length} entries from {c.cacheFilePath.display}") s hc
    obtain ⟨rfl, rfl⟩ := Prod.mk.inj ha
    exact Or.inr (Or.inl ⟨⟨hs, hr⟩, record, hholds, rfl⟩)

/-- A load goes on by failing, by giving the record of a cache file that can be used and is not older than the
lock file, or by a rebuild. -/
theorem proceed_cases {usable : Bool} (hc : h.LogsToConsole) (ha : proceed c usable h = (r, h')) :
    (Rests h h' ∧ ∃ e, r = .error e) ∨
    (usable = true ∧ Rests h h' ∧ ¬timeAt h c.cacheFilePath < timeAt h c.gemfileLockPath ∧
      ∃ record, Holds c h record ∧ r = .ok (Loaded.ofRecord record)) ∨
    ∃ h₁, Pauses h h₁ ∧ rebuild c h₁ = (r, h') := by
  unfold proceed at ha
  rcases bind_cases ha with ⟨e, h₁, he⟩ | ⟨u, s₁, h₁, htimes⟩
  · exact Or.inl ⟨rests_of_within (within_warnIfLockStale frame_rests c) hc h₁, e, he⟩
  have hpause := pauses_of_within (within_warnIfLockStale Host.frame_idles c) hc h₁
  have hrest := hpause.toRests
  have hc₁ := hrest.continues.logsToConsole hc
  rcases bind_cases htimes with ⟨e, h₂, he⟩ | ⟨lockTime, s₂, h₂, htime⟩
  · exact Or.inl ⟨hrest.trans (rests_of_within (within_timeOf frame_rests _) hc₁ h₂), e, he⟩
  obtain ⟨-, rfl, hlock⟩ := timeOf_ok h₂
  rcases bind_cases htime with ⟨e, h₃, he⟩ | ⟨cacheTime, s₃, h₃, hgo⟩
  · exact Or.inl ⟨hrest.trans (rests_of_within (within_timeOf frame_rests _) hc₁ h₃), e, he⟩
  obtain ⟨-, rfl, hcache⟩ := timeOf_ok h₃
  have hrebuild : ∀ {reason : String}, rebuildFor c reason s₃ = (r, h') → ∃ h₁, Pauses h h₁ ∧ rebuild c h₁ = (r, h') := by
    intro reason hr
    obtain ⟨s₄, hp₄, hreb⟩ := rebuildFor_eq hc₁ hr
    exact ⟨s₄, hpause.trans hp₄, hreb⟩
  cases usable with
  | false => exact Or.inr (Or.inr (hrebuild hgo))
  | true =>
      rw [if_neg (by decide)] at hgo
      by_cases hlt : cacheTime < lockTime
      · rw [if_pos hlt] at hgo
        exact Or.inr (Or.inr (hrebuild hgo))
      rw [if_neg hlt] at hgo
      rcases readOrRebuild_cases hc₁ hgo with ⟨hr, he⟩ | ⟨hr, record, hholds, hanswer⟩ | ⟨s₄, hp₄, hreb⟩
      · exact Or.inl ⟨hrest.trans hr, he⟩
      · have hback : ∀ {p : LexicalPath}, timeAt s₃ p = timeAt h p := fun {p} => by
          rw [timeAt, timeAt, hrest.files, hrest.continues.workingDirectory]
        refine Or.inr (Or.inl ⟨rfl, hrest.trans hr, ?_, record, ?_, hanswer⟩)
        · rw [← hback, ← hback, timeAt, timeAt, ← hlock, ← hcache]
          exact hlt
        · rw [Holds, ← hrest.files, ← hrest.continues.workingDirectory]
          exact hholds
      · exact Or.inr (Or.inr ⟨s₄, hpause.trans hp₄, hreb⟩)

/-- A load fails at the manifest, or at the check of the cache file, or goes on after them. -/
theorem loadOrRebuild_cases (hc : h.LogsToConsole) (ha : loadOrRebuild c h = (r, h')) :
    (Rests h h' ∧ ∃ e, r = .error e) ∨
    IsManifest h c.gemfilePath ∧ IsManifest h c.gemfileLockPath ∧
      ((∃ e, ensureCacheFile c h = (.error e, h') ∧ r = .error e) ∨
        ∃ usable h₁, ensureCacheFile c h = (.ok usable, h₁) ∧ proceed c usable h₁ = (r, h')) := by
  rw [loadOrRebuild_eq] at ha
  rcases bind_cases ha with ⟨e, h₁, he⟩ | ⟨u, s₁, h₁, hgo⟩
  · exact Or.inl ⟨rests_of_within (within_checkManifest frame_rests c) hc h₁, e, he⟩
  obtain ⟨rfl, hgem, hlock⟩ := checkManifest_ok h₁
  exact Or.inr ⟨hgem, hlock, bind_cases hgo⟩

theorem ensureCacheFile_of_usable (hu : Usable c h) : ensureCacheFile c h = (.ok true, h) := by
  rcases ha : ensureCacheFile c h with ⟨r, h'⟩
  obtain ⟨hnul, n, hs, hf, hr, hw⟩ := hu
  unfold ensureCacheFile at ha
  have hpermits : Action.permits (fun n => n.readable && n.writable) c.cacheFilePath h = _ := permits_of_status hs
  rw [hr, hw] at hpermits
  have hprobe : probe Node.isFile c.cacheFilePath h = _ := probe_of_status hnul hs
  rw [hf] at hprobe
  exact ha.symm.trans ((bind_of_ok hprobe).trans ((bind_of_ok hpermits).trans rfl))

theorem exists_warned (hg : Pathname.holdsNul c.gemfilePath.spelling = false)
    (hl : Pathname.holdsNul c.gemfileLockPath.spelling = false) : ∃ s, warnIfLockStale c h = (.ok (), s) := by
  unfold warnIfLockStale
  rw [bind_of_ok (timeOf_eq hg), bind_of_ok (timeOf_eq hl)]
  split_ifs <;> exact ⟨_, rfl⟩

/-- What a load does after its warning is decided by the answer of the check of the cache file, and by two times. -/
theorem proceed_of_warned {s : Host} (hs : warnIfLockStale c h = (.ok (), s))
    (hl : Pathname.holdsNul c.gemfileLockPath.spelling = false)
    (hcache : Pathname.holdsNul c.cacheFilePath.spelling = false) (usable : Bool) :
    proceed c usable h =
      (if !usable then rebuildFor c "cache missing"
        else if timeAt s c.cacheFilePath < timeAt s c.gemfileLockPath then
          rebuildFor c "Gemfile.lock is newer than cache"
        else readOrRebuild c) s := by
  unfold proceed
  rw [bind_of_ok hs, bind_of_ok (timeOf_eq hl), bind_of_ok (timeOf_eq hcache)]
  rfl

/-- What a load does after the check of the cache file is decided by its answer and the times. The warning before it
changes no file and does not run the load-path command. -/
theorem proceed_eq (hc : h.LogsToConsole) (hg : Pathname.holdsNul c.gemfilePath.spelling = false)
    (hl : Pathname.holdsNul c.gemfileLockPath.spelling = false)
    (hcache : Pathname.holdsNul c.cacheFilePath.spelling = false) (usable : Bool) :
    ∃ s, h.Continues s ∧ h.Idles s ∧ proceed c usable h =
      (if !usable then rebuildFor c "cache missing"
        else if timeAt h c.cacheFilePath < timeAt h c.gemfileLockPath then
          rebuildFor c "Gemfile.lock is newer than cache"
        else readOrRebuild c) s := by
  obtain ⟨s, hs⟩ := exists_warned (h := h) hg hl
  obtain ⟨hcontinues, hidles⟩ := (within_warnIfLockStale Host.frame_idles c).of_eq hc hs
  have hback : ∀ {p : LexicalPath}, timeAt s p = timeAt h p := fun {p} => by
    rw [timeAt, timeAt, hidles.1, hcontinues.workingDirectory]
  refine ⟨s, hcontinues, hidles, ?_⟩
  rw [proceed_of_warned hs hl hcache, hback, hback]

/-- A load of a cache file that can be used and is not older than the lock file reads it. Before that it changes no
file and does not run the load-path command. -/
theorem loadOrRebuild_of_usable (hc : h.LogsToConsole) (hg : IsManifest h c.gemfilePath)
    (hl : IsManifest h c.gemfileLockPath) (hu : Usable c h)
    (ht : ¬timeAt h c.cacheFilePath < timeAt h c.gemfileLockPath) :
    ∃ s, loadOrRebuild c h = readOrRebuild c s ∧ h.Continues s ∧ h.Idles s := by
  obtain ⟨s, hcontinues, hidles, hproceed⟩ := proceed_eq hc hg.1 hl.1 hu.1 true
  refine ⟨s, ?_, hcontinues, hidles⟩
  rw [loadOrRebuild_eq, bind_of_ok (checkManifest_of_isManifest hg hl), bind_of_ok (ensureCacheFile_of_usable hu), hproceed,
    if_neg (by decide), if_neg ht]

/-- A load gives the record of a cache file that can be used and is not older than the lock file. It changes no
file and does not run the load-path command. -/
theorem loadOrRebuild_of_holds {record : Record} (hc : h.LogsToConsole) (hg : IsManifest h c.gemfilePath)
    (hl : IsManifest h c.gemfileLockPath) (hu : Usable c h)
    (ht : ¬timeAt h c.cacheFilePath < timeAt h c.gemfileLockPath) (hh : Holds c h record) :
    ∃ h', loadOrRebuild c h = (.ok (Loaded.ofRecord record), h') ∧ h.Continues h' ∧ h.Idles h' := by
  obtain ⟨s, heq, hs, hi⟩ := loadOrRebuild_of_usable hc hg hl hu ht
  have hread : readRecord c.cacheFilePath s = (.ok record, s) :=
    readRecord_of_holds (by rw [Holds, hi.1, hs.workingDirectory]; exact hh)
  obtain ⟨hs', hi'⟩ := within_log Host.frame_idles part .debug
    (s!"[owl:cache] loaded {(Loaded.ofRecord record).loadPaths.length} load paths, " ++
      s!"{(Loaded.ofRecord record).entries.length} entries from {c.cacheFilePath.display}") s (hs.logsToConsole hc)
  rw [heq]
  exact ⟨_, (bind_of_ok (attempt_eq hread)).trans rfl, hs.trans hs', Host.frame_idles.trans hi hi'⟩

end RequirePath.Cache
