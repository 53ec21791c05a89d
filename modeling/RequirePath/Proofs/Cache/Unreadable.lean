import RequirePath.Proofs.Cache.Causes

/-! Loads that fail because of what the cache file holds. Nothing but the reading of the record fails so, and it is
reached only if the cache file can be used and is not older than the lock file. -/

namespace RequirePath

open FileSystem RequirePath.Action

namespace Failure

/-- What the bytes of a cache file can cause. -/
def isOfRecord : Failure → Bool
  | .cacheCorrupt _ _ | .tooDeep | .tooManyDigits _ => true
  | _ => false

end Failure

namespace Cache

variable {c : Config} {l : Loaded} {h h' : Host} {e : Failure}

/-- The action does not fail because of the bytes of a cache file. -/
def IgnoresRecord {α : Type} (act : Action α) : Prop :=
  FailsOnly (fun e => e.isOfRecord = false) act

theorem holdsOfMachine_ignored : HoldsOfMachine fun e => e.isOfRecord = false :=
  ⟨rfl, rfl, fun _ _ => rfl, fun _ => rfl⟩

theorem ignoresRecord_log (part : String) (level : Log.Level) (message : String) :
    IgnoresRecord (Action.log part level message) :=
  failsOnly_log part level message

theorem ignoresRecord_checkManifest (c : Config) : IgnoresRecord (checkManifest c) :=
  failsOnly_checkManifest (P := fun e => e.isOfRecord = false) (fun _ _ => rfl) (fun _ _ => rfl) (fun _ _ => rfl) c

theorem ignoresRecord_ensureCacheFile (c : Config) : IgnoresRecord (ensureCacheFile c) :=
  holdsOfMachine_ignored.ensureCacheFile c

theorem ignoresRecord_timeOf (path : LexicalPath) : IgnoresRecord (timeOf path) :=
  holdsOfMachine_ignored.timeOf path

theorem ignoresRecord_warnIfLockStale (c : Config) : IgnoresRecord (warnIfLockStale c) :=
  holdsOfMachine_ignored.warnIfLockStale c

theorem ignoresRecord_rebuild (c : Config) : IgnoresRecord (rebuild c) :=
  holdsOfMachine_ignored.rebuild c

/-! ### Loads -/

theorem readRecord_of_read {bytes : List UInt8} (hnul : Pathname.holdsNul c.cacheFilePath.spelling = false)
    (hread : h.files.read h.workingDirectory c.cacheFilePath.spelling = .ok bytes) :
    readRecord c.cacheFilePath h = (Record.decode c.cacheFilePath.display bytes, h) := by
  simp [readRecord, lookOrFail, hnul, hread]

/-- The record of a cache file that can be used is read from its bytes. -/
theorem readRecord_of_usable (hu : Usable c h) :
    ∃ bytes, h.files.read h.workingDirectory c.cacheFilePath.spelling = .ok bytes ∧
      readRecord c.cacheFilePath h = (Record.decode c.cacheFilePath.display bytes, h) := by
  obtain ⟨hnul, n, hs, hf, hr, -⟩ := hu
  obtain ⟨bytes, hcontent⟩ := Node.isFile_iff.1 hf
  have hread : h.files.read h.workingDirectory c.cacheFilePath.spelling = .ok bytes :=
    read_eq_ok_iff.2 ⟨n, hs, hr, hcontent⟩
  exact ⟨bytes, hread, readRecord_of_read hnul hread⟩

/-- What a load does with the result of the reading. -/
def useRecord (c : Config) : Except Failure Record → Action Loaded
  | .ok record => do
    let l := Loaded.ofRecord record
    Action.log part .debug <|
      s!"[owl:cache] loaded {l.loadPaths.length} load paths, " ++
        s!"{l.entries.length} entries from {c.cacheFilePath.display}"
    pure l
  | .error (.cacheCorrupt path reason) =>
    if c.onCorruptCache = .fail then fail (.cacheCorrupt path reason)
    else do
      Action.log part .warning s!"[owl:cache] {(Failure.cacheCorrupt path reason).message}; rebuilding"
      rebuild c
  | .error e => fail e

theorem readOrRebuild_eq (c : Config) (h : Host) :
    readOrRebuild c h = useRecord c (readRecord c.cacheFilePath h).1 h := rfl

/-- The result of the reading is the failure of the load, unless a corrupt record is rebuilt. -/
theorem useRecord_error_iff {r : Except Failure Record} (he : e.isOfRecord = true) :
    (useRecord c r h).1 = .error e ↔
      r = .error e ∧ ((∃ path reason, e = .cacheCorrupt path reason) → c.onCorruptCache = .fail) := by
  cases r with
  | ok record =>
      constructor
      · intro h
        cases h
      · rintro ⟨h, -⟩
        cases h
  | error e' =>
      by_cases hcorrupt : ∃ path reason, e' = .cacheCorrupt path reason
      · obtain ⟨path, reason, rfl⟩ := hcorrupt
        rw [useRecord]
        by_cases hpolicy : c.onCorruptCache = .fail
        · rw [if_pos hpolicy]
          constructor
          · intro heq
            cases heq
            exact ⟨rfl, fun _ => hpolicy⟩
          · rintro ⟨heq, -⟩
            cases heq
            rfl
        · rw [if_neg hpolicy]
          constructor
          · intro heq
            -- the failure would be that of the rebuild, which does not read the record
            have hignores : IgnoresRecord (Action.log part .warning
                s!"[owl:cache] {(Failure.cacheCorrupt path reason).message}; rebuilding" >>= fun _ => rebuild c) :=
              failsOnly_bind (ignoresRecord_log _ _ _) fun _ => ignoresRecord_rebuild c
            have hfalse : e.isOfRecord = false := hignores h e _ (Prod.ext heq rfl)
            rw [he] at hfalse
            cases hfalse
          · rintro ⟨heq, hfail⟩
            cases heq
            exact absurd (hfail ⟨path, reason, rfl⟩) hpolicy
      · have hfail : useRecord c (.error e') = fail e' := by
          cases e' with
          | cacheCorrupt path reason => exact absurd ⟨path, reason, rfl⟩ hcorrupt
          | _ => rfl
        rw [hfail]
        constructor
        · intro heq
          cases heq
          exact ⟨rfl, fun h => absurd h hcorrupt⟩
        · rintro ⟨heq, -⟩
          cases heq
          rfl

/-- A load fails because of the bytes of the cache file exactly if the manifest is in order, the cache file can be
used, is not older than the lock file and is read in vain, and if a corrupt record is not to be rebuilt. -/
theorem loadOrRebuild_error_iff (hc : h.LogsToConsole) (he : e.isOfRecord = true) :
    (loadOrRebuild c h).1 = .error e ↔
      IsManifest h c.gemfilePath ∧ IsManifest h c.gemfileLockPath ∧ Usable c h ∧
        ¬timeAt h c.cacheFilePath < timeAt h c.gemfileLockPath ∧
        (readRecord c.cacheFilePath h).1 = .error e ∧
        ((∃ path reason, e = .cacheCorrupt path reason) → c.onCorruptCache = .fail) := by
  have hne : ¬e.isOfRecord = false := by simp [he]
  constructor
  · intro heq
    rcases ha : loadOrRebuild c h with ⟨r, h'⟩
    obtain rfl : r = .error e := by rwa [ha] at heq
    rw [loadOrRebuild_eq] at ha
    -- what comes before the reading of the record has not failed, and no rebuild has been made instead
    obtain ⟨u, s₁, hcheck, hgo⟩ := (ignoresRecord_checkManifest c).bind_error hne ha
    obtain ⟨rfl, hg, hl⟩ := checkManifest_ok hcheck
    obtain ⟨usable, s₂, hensure, hproceed⟩ := (ignoresRecord_ensureCacheFile c).bind_error hne hgo
    unfold proceed at hproceed
    obtain ⟨v, s₃, hwarn, htimes⟩ := (ignoresRecord_warnIfLockStale c).bind_error hne hproceed
    obtain ⟨lockTime, s₄, hlock, htime⟩ := (ignoresRecord_timeOf _).bind_error hne htimes
    obtain ⟨cacheTime, s₅, hcache, hlast⟩ := (ignoresRecord_timeOf _).bind_error hne htime
    obtain ⟨-, rfl, hlocked⟩ := timeOf_ok hlock
    obtain ⟨-, rfl, hcached⟩ := timeOf_ok hcache
    have hrebuild : ∀ reason, rebuildFor c reason s₅ ≠ (.error e, h') := fun reason heq =>
      hne ((failsOnly_bind (ignoresRecord_log _ _ _) fun _ => ignoresRecord_rebuild c) s₅ e h' heq)
    cases usable with
    | false => exact absurd hlast (hrebuild _)
    | true =>
        obtain ⟨rfl, hu⟩ := ensureCacheFile_true hensure
        have hrest := rests_of_within (within_warnIfLockStale frame_rests c) hc hwarn
        rw [if_neg (by decide)] at hlast
        by_cases hstale : cacheTime < lockTime
        · rw [if_pos hstale] at hlast
          exact absurd hlast (hrebuild _)
        · rw [if_neg hstale, readOrRebuild_eq] at hlast
          obtain ⟨hread, hpolicy⟩ := (useRecord_error_iff he).1 (congrArg Prod.fst hlast)
          have hsame : (readRecord c.cacheFilePath s₅).1 = (readRecord c.cacheFilePath s₂).1 := by
            simp only [readRecord, lookOrFail, hrest.files, hrest.continues.workingDirectory]
          refine ⟨hg, hl, hu, ?_, hsame ▸ hread, hpolicy⟩
          rw [hlocked, hcached, hrest.files, hrest.continues.workingDirectory] at hstale
          exact hstale
  · rintro ⟨hg, hl, hu, ht, hread, hpolicy⟩
    obtain ⟨s, heq, hs, hi⟩ := loadOrRebuild_of_usable hc hg hl hu ht
    have hsame : (readRecord c.cacheFilePath s).1 = (readRecord c.cacheFilePath h).1 := by
      simp only [readRecord, lookOrFail, hi.1, hs.workingDirectory]
    rw [heq, readOrRebuild_eq, hsame]
    exact (useRecord_error_iff he).2 ⟨hread, hpolicy⟩

end Cache

end RequirePath
