import RequirePath.Proofs.Cache.Calls
import RequirePath.Proofs.Cache.Causes
import RequirePath.Proofs.Cache.Content
import RequirePath.Proofs.Cache.Reload
import RequirePath.Proofs.Config
import RequirePath.Proofs.File.Visits

/-! What a clearing of the cache does to the project. It removes the tree of whatever directory the configuration names,
and the next load makes that directory again. The manifest and the lock file stay in order exactly if neither of their
paths leads through the directory that is removed. No rule on settings sees to that: the cache directory may be the
project root or lie above it. -/

namespace RequirePath

open FileSystem RequirePath.Action

namespace Failure

/-- A project or settings that are not in order. -/
def isOfConfiguration : Failure → Bool
  | .invalidSettings _ | .manifestMissing _ _ | .manifestUnreadable _ _ => true
  | _ => false

end Failure

namespace Cache

variable {c : Config} {h h' : Host} {d : Location} {name : Filename} {path : LexicalPath} {e : Failure} {removed : Bool}

/-- A path leads through the directory that a clearing of the cache removes. -/
def LeadsThroughCache (c : Config) (h : Host) (path : LexicalPath) : Prop :=
  ∃ tree, h.files.locate h.workingDirectory false c.cacheDirPath.spelling = .ok tree ∧
    h.files.LeadsThrough h.workingDirectory path.spelling tree

/-- Clearing the cache takes the manifest or the lock file along. -/
def ClearTakesManifest (c : Config) (h : Host) : Prop :=
  LeadsThroughCache c h c.gemfilePath ∨ LeadsThroughCache c h c.gemfileLockPath

/-- Without links, a path that leads through the cache directory is spelled below it. -/
theorem LeadsThroughCache.suffix (ht : LeadsThroughCache c h path) (hc : c.cacheDirPath.Normal) (hp : path.Normal)
    (hl : h.files.LinkFree) : c.cacheDirPath.location <:+ path.location := by
  obtain ⟨tree, htree, hthrough⟩ := ht
  obtain rfl : tree = c.cacheDirPath.location := location_of_resolve hl hc (locate_eq_ok_iff.1 htree)
  exact hthrough.suffix hp (hl.straight _)

theorem not_leadsThroughCache (hc : c.SingleNames) (hn : IsPlainName name) (hne : c.cacheDir ≠ name)
    (hl : h.files.LinkFree) : ¬LeadsThroughCache c h (c.projectRoot.entry name) := by
  intro ht
  have hbelow := ht.suffix hc.normal (hc.root.entry hn) hl
  rw [hc.cacheDirPath_eq, LexicalPath.location_entry, LexicalPath.location_entry] at hbelow
  exact hne (List.cons.inj (hbelow.eq_of_length (by rw [List.length_cons, List.length_cons]))).1

/-- Without links, clearing takes no manifest along if the cache directory, the manifest and the lock file are entries of
the project root and the first one is neither of the others. -/
theorem not_clearTakesManifest (hc : c.SingleNames) (hg : IsPlainName c.gemfile) (hgne : c.cacheDir ≠ c.gemfile)
    (hl : IsPlainName c.gemfileLock) (hlne : c.cacheDir ≠ c.gemfileLock) (hlinks : h.files.LinkFree) :
    ¬ClearTakesManifest c h := by
  have hgem : c.gemfilePath = c.projectRoot.entry c.gemfile := LexicalPath.join_parse_plain _ hg
  have hlock : c.gemfileLockPath = c.projectRoot.entry c.gemfileLock := LexicalPath.join_parse_plain _ hl
  rw [ClearTakesManifest, hgem, hlock]
  rintro (ht | ht)
  · exact not_leadsThroughCache hc hg hgne hlinks ht
  · exact not_leadsThroughCache hc hl hlne hlinks ht

/-- A clearing that succeeds changes nothing, or removes the tree of the cache directory. -/
theorem clear_ok (hp : c.cacheDirPath.Tidy) (hc : h.LogsToConsole) (ha : clear c h = (.ok removed, h')) :
    h.Continues h' ∧ (removed = false ∧ h'.files = h.files ∨
      removed = true ∧ ∃ d name, h.files.locate h.workingDirectory false c.cacheDirPath.spelling = .ok (name :: d) ∧
        h.files.Removes h'.files d name) := by
  refine ⟨((Covers.anyFiles c).clear.of_eq hc ha).1, ?_⟩
  obtain ⟨there, h₁, hprobe, hgo⟩ := of_bind_ok ha
  obtain ⟨rfl, -⟩ := probe_ok hprobe
  cases there with
  | false =>
      obtain ⟨hremoved, rfl⟩ := Prod.mk.inj hgo
      exact Or.inl ⟨(Except.ok.inj hremoved).symm, rfl⟩
  | true =>
      rw [if_neg (by decide)] at hgo
      obtain ⟨u, h₂, hremove, hlast⟩ := of_bind_ok hgo
      obtain ⟨name, d, hplace, hr⟩ := removeTree_ok hp hremove
      have hc₂ := ((Covers.anyFiles c).removal.of_eq hc hremove).1.logsToConsole hc
      obtain ⟨-, hfiles⟩ := within_log frame_rests part .info s!"[owl:cache] removed {c.cacheDirPath.display}" h₂ hc₂
      obtain ⟨hremoved, rfl⟩ := Prod.mk.inj hlast
      exact Or.inr ⟨(Except.ok.inj hremoved).symm, d, name, hplace, hfiles ▸ hr⟩

/-! ### The manifest without the tree -/

theorem isManifest_of_around (hr : h.files.Removes h'.files d name) (hcwd : h'.workingDirectory = h.workingDirectory)
    (hp : path.Tidy) (hm : IsManifest h path)
    (hv : ¬h.files.LeadsThrough h.workingDirectory path.spelling (name :: d)) : IsManifest h' path := by
  obtain ⟨hnul, n, hs, hfile, hread⟩ := hm
  obtain ⟨t, hs'⟩ := hr.status_around hs hv (not_suffix_linkStart_spelling hp)
  exact ⟨hnul, { n with modified := t }, by rw [hcwd]; exact hs', hfile, hread⟩

theorem checkFile_of_through (hr : h.files.Removes h'.files d name) (hcwd : h'.workingDirectory = h.workingDirectory)
    (hp : path.Tidy) (hm : IsManifest h path)
    (hv : h.files.LeadsThrough h.workingDirectory path.spelling (name :: d)) :
    checkFile path h' = (.error (.manifestMissing (Pathname.display path.name) path.display), h') := by
  obtain ⟨hnul, n, hs, hfile, -⟩ := hm
  have hs' := hr.status_through hs (Node.isDirectory_of_isFile hfile) hv (not_suffix_linkStart_spelling hp)
  have hprobe : Action.probe Node.isFile path h' = (.ok false, h') := by
    simp only [Action.probe, lookOrFail, FileSystem.probe, hnul, hcwd, hs']
    rfl
  unfold checkFile
  rw [bind_of_ok hprobe]
  rfl

/-- Without the tree, the check of the manifest fails exactly if it needs one of the files in it, and then because that
file is missing. -/
theorem checkManifest_of_removes (hroot : c.projectRoot.Normal) (hr : h.files.Removes h'.files d name)
    (hcwd : h'.workingDirectory = h.workingDirectory) (hg : IsManifest h c.gemfilePath) (hl : IsManifest h c.gemfileLockPath) :
    let lost := h.files.LeadsThrough h.workingDirectory c.gemfilePath.spelling (name :: d) ∨
      h.files.LeadsThrough h.workingDirectory c.gemfileLockPath.spelling (name :: d)
    ¬lost ∧ checkManifest c h' = (.ok (), h') ∨
      lost ∧ ∃ file shown, checkManifest c h' = (.error (.manifestMissing file shown), h') := by
  intro lost
  have hgem : c.gemfilePath.Tidy := LexicalPath.tidy_join_parse hroot _
  have hlock : c.gemfileLockPath.Tidy := LexicalPath.tidy_join_parse hroot _
  by_cases hvg : h.files.LeadsThrough h.workingDirectory c.gemfilePath.spelling (name :: d)
  · exact Or.inr ⟨Or.inl hvg, _, _, bind_of_error (checkFile_of_through hr hcwd hgem hg hvg)⟩
  have hg' := isManifest_of_around hr hcwd hgem hg hvg
  by_cases hvl : h.files.LeadsThrough h.workingDirectory c.gemfileLockPath.spelling (name :: d)
  · obtain ⟨hnul, n, hs, hfile, hread⟩ := hg'
    refine Or.inr ⟨Or.inr hvl, Pathname.display c.gemfileLockPath.name, c.gemfileLockPath.display, ?_⟩
    exact (bind_of_ok (checkFile_of_status hnul hs hfile hread)).trans (checkFile_of_through hr hcwd hlock hl hvl)
  · refine Or.inl ⟨fun hlost => hlost.elim hvg hvl, ?_⟩
    exact checkManifest_of_isManifest hg' (isManifest_of_around hr hcwd hlock hl hvl)

/-- After a clearing the check of the manifest passes as before, or it misses a file that the clearing took along. -/
theorem checkManifest_of_clear (hroot : c.projectRoot.Normal) (hc : h.LogsToConsole) (hg : IsManifest h c.gemfilePath)
    (hl : IsManifest h c.gemfileLockPath) (ha : clear c h = (.ok removed, h')) :
    ¬(removed = true ∧ ClearTakesManifest c h) ∧ checkManifest c h' = (.ok (), h') ∨
      (removed = true ∧ ClearTakesManifest c h) ∧
        ∃ file shown, checkManifest c h' = (.error (.manifestMissing file shown), h') := by
  obtain ⟨hcontinues, ⟨rfl, hsame⟩ | ⟨rfl, d, name, hplace, hr⟩⟩ := clear_ok (LexicalPath.tidy_join_parse hroot _) hc ha
  · have hrests : Rests h h' := ⟨hcontinues, hsame⟩
    exact Or.inl ⟨fun hlost => Bool.false_ne_true hlost.1,
      checkManifest_of_isManifest (isManifest_of_rests hrests hg) (isManifest_of_rests hrests hl)⟩
  · have htree : ∀ path, LeadsThroughCache c h path ↔
        h.files.LeadsThrough h.workingDirectory path.spelling (name :: d) := by
      refine fun path => ⟨fun ⟨tree, htree, hthrough⟩ => ?_, fun hthrough => ⟨_, hplace, hthrough⟩⟩
      cases hplace.symm.trans htree
      exact hthrough
    rw [ClearTakesManifest, htree, htree, eq_self, true_and]
    exact checkManifest_of_removes hroot hr hcontinues.workingDirectory hg hl

/-! ### The next load -/

theorem failsOnly_readRecord : FailsOnly (fun e => e.isOfConfiguration = false) (readRecord c.cacheFilePath) := by
  refine failsOnly_lookOrFail fun h e hread => ?_
  split_ifs at hread
  · cases hread
    rfl
  split at hread
  · cases hread
    rfl
  rcases Record.decode_error_cases hread with ⟨reason, rfl⟩ | hpasses
  · rfl
  · cases e with
    | tooDeep | tooManyDigits => rfl
    | _ => exact hpasses.elim

/-- Only the check of the manifest fails because the project is not in order. -/
theorem loadOrRebuild_error_iff_checkManifest (he : e.isOfConfiguration = true) :
    (loadOrRebuild c h).1 = .error e ↔ (checkManifest c h).1 = .error e := by
  have hmachine : HoldsOfMachine fun e => e.isOfConfiguration = false := ⟨rfl, rfl, fun _ _ => rfl, fun _ => rfl⟩
  rw [loadOrRebuild_eq]
  constructor
  · intro heq
    rcases bind_cases (Prod.ext heq rfl : _ = (Except.error e, _)) with ⟨e', hcheck, he'⟩ | ⟨u, h₁, -, hgo⟩
    · cases he'
      rw [hcheck]
    · have hfalse : e.isOfConfiguration = false :=
        failsOnly_bind (hmachine.ensureCacheFile c) (fun usable => hmachine.proceed failsOnly_readRecord usable) h₁ _ _ hgo
      rw [he] at hfalse
      cases hfalse
  · intro heq
    rw [bind_of_error (Prod.ext heq rfl : checkManifest c h = (.error e, _))]

end Cache

namespace Store

open Pathname (ofText)

variable {s s' : Store} {h h' : Host} {removed : Bool}

theorem load_error_iff_checkManifest {e : Failure} (hs : s.loaded = none) (he : e.isOfConfiguration = true) :
    (s.load h).1.1 = .error e ↔ (Cache.checkManifest s.config h).1 = .error e := by
  rw [← Cache.loadOrRebuild_error_iff_checkManifest he, load, hs]
  dsimp only
  rw [keeping]
  rcases Cache.loadOrRebuild s.config h with ⟨e' | l, h₁⟩
  · exact Iff.rfl
  · constructor
    · intro heq
      cases heq
    · intro heq
      cases heq

/-- After a clearing that succeeds the check of the manifest passes as before, unless the path of the manifest or of the
lock file led through the directory that was removed; then, and only then, the next load fails because the project is not
in order. -/
theorem load_after_clear (hroot : s.config.projectRoot.Normal) (hc : h.LogsToConsole)
    (hcheck : (Cache.checkManifest s.config h).1 = .ok ()) (hclear : s.clear h = ((.ok removed, s'), h')) :
    ((Cache.checkManifest s.config h').1 = .ok () ↔ ¬(removed = true ∧ Cache.ClearTakesManifest s.config h)) ∧
    ((∃ e, (s'.load h').1.1 = .error e ∧ e.isOfConfiguration = true) ↔
      removed = true ∧ Cache.ClearTakesManifest s.config h) := by
  obtain ⟨-, hgem, hlock⟩ := Cache.checkManifest_ok (Prod.ext hcheck rfl : Cache.checkManifest s.config h = (.ok (), _))
  rcases hrun : Cache.clear s.config h with ⟨r, h₁⟩
  rw [clear, hrun] at hclear
  cases hclear
  -- the check of the manifest decides about the load
  have hload : ∀ {e : Failure}, e.isOfConfiguration = true →
      ((load ⟨s.config, none⟩ h').1.1 = .error e ↔ (Cache.checkManifest s.config h').1 = .error e) :=
    fun he => load_error_iff_checkManifest rfl he
  rcases Cache.checkManifest_of_clear hroot hc hgem hlock hrun with ⟨hkept, hpasses⟩ | ⟨hlost, file, shown, hfails⟩
  · refine ⟨iff_of_true (by rw [hpasses]) hkept, iff_of_false (fun ⟨e, hfails, he⟩ => ?_) hkept⟩
    have hnone := (hload he).1 hfails
    rw [hpasses] at hnone
    cases hnone
  · refine ⟨iff_of_false (fun hpasses => ?_) (not_not_intro hlost), iff_of_true ⟨_, (hload rfl).2 (by rw [hfails]), rfl⟩ hlost⟩
    rw [hfails] at hpasses
    cases hpasses

/-- The project of the sample, with a cache directory. -/
def cachedHost : Host :=
  { sampleHost with files := sampleFiles.put [ofText ".owl_cache", ofText "app"] (Node.newDirectory ⟨10, 0⟩) }

/-- A cache directory that lies in the project is removed alone, and the project stays in order. -/
theorem load_after_clear_sample :
    ∃ s h, clear ⟨sampleConfig, none⟩ cachedHost = ((.ok true, s), h) ∧ (Cache.checkManifest sampleConfig h).1 = .ok () := by
  have hlinks : cachedHost.files.LinkFree := by decide
  have hlog : cachedHost.LogsToConsole := fun _ hs => absurd hs List.not_mem_nil
  have hcheck : (Cache.checkManifest sampleConfig cachedHost).1 = .ok () := by rfl
  have hkept : ¬Cache.ClearTakesManifest sampleConfig cachedHost :=
    Cache.not_clearTakesManifest plainCache_sampleConfig.singleNames (by decide) (by decide) (by decide) (by decide) hlinks
  have hremoved : (clear ⟨sampleConfig, none⟩ cachedHost).1.1.toOption = some true := by cbv
  rcases hclear : clear ⟨sampleConfig, none⟩ cachedHost with ⟨⟨r, s⟩, h⟩
  rw [hclear] at hremoved
  obtain rfl := Cache.eq_ok_of_toOption hremoved
  have hpasses := (load_after_clear (s := ⟨sampleConfig, none⟩) plainCache_sampleConfig.root hlog hcheck hclear).1
  exact ⟨s, h, rfl, hpasses.2 fun hlost => hkept hlost.2⟩

/-- The project of the sample with a cache that is not kept apart. -/
def rootCacheConfig : Config := { sampleConfig with cacheDir := ofText "." }

/-- Settings that put the cache directory at the project root are admitted. Clearing such a cache removes the project, and
the next load misses the manifest. -/
theorem clear_removes_project :
    Config.ofSettings ⟨.root, []⟩ [("project_root", .text "/app"), ("cache_dir", .text ".")] = .ok rootCacheConfig ∧
    (Cache.checkManifest rootCacheConfig sampleHost).1 = .ok () ∧
    ∃ s h file shown, clear ⟨rootCacheConfig, none⟩ sampleHost = ((.ok true, s), h) ∧
      (Cache.checkManifest rootCacheConfig h).1 = .error (.manifestMissing file shown) ∧
      (s.load h).1.1 = .error (.manifestMissing file shown) := by
  have hcheck : (Cache.checkManifest rootCacheConfig sampleHost).1 = .ok () := by rfl
  have hremoved : (Cache.clear rootCacheConfig sampleHost).1.toOption = some true := by cbv
  have hfails : (Cache.checkManifest rootCacheConfig (Cache.clear rootCacheConfig sampleHost).2).1.toOption = none := by cbv
  obtain ⟨-, hgem, hlock⟩ := Cache.checkManifest_ok (Prod.ext hcheck rfl : Cache.checkManifest _ sampleHost = (.ok (), _))
  rcases hclear : Cache.clear rootCacheConfig sampleHost with ⟨r, h⟩
  rw [hclear] at hremoved hfails
  obtain rfl := Cache.eq_ok_of_toOption hremoved
  have hlog : sampleHost.LogsToConsole := fun _ hs => absurd hs List.not_mem_nil
  rcases Cache.checkManifest_of_clear (by decide) hlog hgem hlock hclear with ⟨-, hpasses⟩ | ⟨-, file, shown, hmissing⟩
  · rw [hpasses] at hfails
    cases hfails
  have hmissing' : (Cache.checkManifest rootCacheConfig h).1 = .error (.manifestMissing file shown) := by rw [hmissing]
  refine ⟨by rfl, hcheck, ⟨rootCacheConfig, none⟩, h, file, shown, ?_, hmissing', ?_⟩
  · rw [clear, hclear]
  · exact (load_error_iff_checkManifest rfl rfl).2 hmissing'

end Store

end RequirePath
