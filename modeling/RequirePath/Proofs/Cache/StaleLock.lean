import RequirePath.Proofs.Cache.Alongside
import RequirePath.Proofs.Cache.Content
import RequirePath.Proofs.Cache.Reload

/-! The warning about a stale lock file. On two machines that differ only in the manifest and in the bytes of its lock file
a load ends the same, and leaves the same files elsewhere. It warns at most once, by the times of the two files after the
check of the cache file. -/

namespace RequirePath

open FileSystem RequirePath.Action

namespace Cache

open Host

variable {P : Location → Prop} {c : Config} {g l q : Location} {h h₁ k s t : Host} {usable : Bool} {n : Node}
variable {path : LexicalPath}

/-- The warning that the times of the manifest and of its lock file call for. -/
def staleWarnings (c : Config) (h : Host) : List String :=
  if timeAt h c.gemfileLockPath < timeAt h c.gemfilePath then [staleLockMessage c] else []

/-- The manifest and the cache file pass their checks, which leave a machine. -/
def PassesChecks (c : Config) (h h₁ : Host) : Prop :=
  checkManifest c h = (.ok (), h) ∧ ∃ usable, ensureCacheFile c h = (.ok usable, h₁)

theorem passesChecks_of_toOption (hm : (checkManifest c h).1.toOption = some ())
    (he : (ensureCacheFile c h).1.toOption.isSome = true) : PassesChecks c h (ensureCacheFile c h).2 := by
  obtain ⟨usable, he⟩ := Option.isSome_iff_exists.1 he
  have hmanifest : checkManifest c h = (.ok (), (checkManifest c h).2) := Prod.ext (eq_ok_of_toOption hm) rfl
  refine ⟨?_, usable, Prod.ext (eq_ok_of_toOption he) rfl⟩
  rwa [(checkManifest_ok hmanifest).1] at hmanifest

/-- The path of the cache file leads to neither of two places. -/
def LeadsElsewhere (c : Config) (g l : Location) (h : Host) : Prop :=
  ∀ q, h.files.resolve h.workingDirectory true c.cacheFilePath.spelling = .ok (.found q) → q ≠ g ∧ q ≠ l

/-- Two machines have the same files but for the bytes and time of the manifest and the bytes of its lock file. The path of
the cache file leads to neither of the two. -/
structure SameButManifest (c : Config) (g l : Location) (h k : Host) : Prop where
  files : k = { h with files := k.files }
  gemfile : h.files.resolve h.workingDirectory true c.gemfilePath.spelling = .ok (.found g)
  lock : h.files.resolve h.workingDirectory true c.gemfileLockPath.spelling = .ok (.found l)
  atGemfile : ∃ n n', h.files.node? g = some n ∧ k.files.node? g = some n' ∧ n.isFile = true ∧ n'.isFile = true ∧
    n'.mode = n.mode
  atLock : ∃ n n', h.files.node? l = some n ∧ k.files.node? l = some n' ∧ n.isFile = true ∧ n'.isFile = true ∧
    n'.mode = n.mode ∧ n'.modified = n.modified
  elsewhere : ∀ q, q ≠ g → q ≠ l → k.files.node? q = h.files.node? q
  cacheFile : LeadsElsewhere c g l h

namespace SameButManifest

variable (hd : SameButManifest c g l h k)
include hd

theorem workingDirectory : k.workingDirectory = h.workingDirectory := by
  rw [hd.files]

theorem sameBut : SameBut (fun q => q = g ∨ q = l) h.files k.files := by
  refine sameBut_iff.2 fun q => ?_
  by_cases hg : q = g
  · obtain ⟨n, n', hn, hn', hf, hf', hm⟩ := hd.atGemfile
    exact Or.inr ⟨n, n', hg ▸ hn, hg ▸ hn', ⟨hm, Or.inr ⟨hf, hf'⟩⟩, fun hno => absurd (Or.inl hg) hno⟩
  by_cases hl : q = l
  · obtain ⟨n, n', hn, hn', hf, hf', hm, -⟩ := hd.atLock
    exact Or.inr ⟨n, n', hl ▸ hn, hl ▸ hn', ⟨hm, Or.inr ⟨hf, hf'⟩⟩, fun hno => absurd (Or.inr hl) hno⟩
  · have hsame : Matches (fun q => q = g ∨ q = l) h.files h.files q := sameBut_iff.1 (sameBut_refl _) q
    rwa [Matches, hd.elsewhere q hg hl]

theorem alongside (hc : h.LogsToConsole) : Alongside (fun q => q = g ∨ q = l) h k where
  console := hc
  continues := by
    rw [hd.files]
    rfl
  files := hd.sameBut
  toolRuns := by
    rw [hd.files]
    rfl

theorem status_cacheFile : k.files.status k.workingDirectory c.cacheFilePath.spelling =
    h.files.status h.workingDirectory c.cacheFilePath.spelling := by
  rw [hd.workingDirectory]
  refine hd.sameBut.status_eq fun q hq => ?_
  rintro (hg | hl)
  · exact (hd.cacheFile q hq).1 hg
  · exact (hd.cacheFile q hq).2 hl

theorem timeAt_lock : timeAt k c.gemfileLockPath = timeAt h c.gemfileLockPath := by
  obtain ⟨n, n', hn, hn', -, -, -, ht⟩ := hd.atLock
  have hs : h.files.status h.workingDirectory c.gemfileLockPath.spelling = .ok n := status_eq_ok_iff.2 ⟨l, hd.lock, hn⟩
  have hs' : k.files.status k.workingDirectory c.gemfileLockPath.spelling = .ok n' := by
    refine status_eq_ok_iff.2 ⟨l, ?_, hn'⟩
    rw [hd.workingDirectory, hd.sameBut.resolve_eq]
    exact hd.lock
  simp only [timeAt, FileSystem.modified?, hs, hs', ht]

theorem symm : SameButManifest c g l k h where
  files := by
    rw [hd.files]
  gemfile := by
    rw [hd.workingDirectory, hd.sameBut.resolve_eq, hd.gemfile]
  lock := by
    rw [hd.workingDirectory, hd.sameBut.resolve_eq, hd.lock]
  atGemfile := by
    obtain ⟨n, n', hn, hn', hf, hf', hm⟩ := hd.atGemfile
    exact ⟨n', n, hn', hn, hf', hf, hm.symm⟩
  atLock := by
    obtain ⟨n, n', hn, hn', hf, hf', hm, ht⟩ := hd.atLock
    exact ⟨n', n, hn', hn, hf', hf, hm.symm, ht.symm⟩
  elsewhere := fun q hg hl => (hd.elsewhere q hg hl).symm
  cacheFile := fun q hq => hd.cacheFile q (by rwa [hd.workingDirectory, hd.sameBut.resolve_eq] at hq)

end SameButManifest

theorem timeAt_congr {h k : Host} (hs : k.files.status k.workingDirectory path.spelling =
    h.files.status h.workingDirectory path.spelling) : timeAt k path = timeAt h path := by
  simp only [timeAt, FileSystem.modified?, hs]

theorem timeAt_of_pauses (hp : Pauses h s) : timeAt s path = timeAt h path := by
  rw [timeAt, timeAt, hp.files, hp.continues.workingDirectory]

/-! ### The warning -/

theorem warnIfLockStale_warns (hc : h.LogsToConsole) (hg : Pathname.holdsNul c.gemfilePath.spelling = false)
    (hl : Pathname.holdsNul c.gemfileLockPath.spelling = false) :
    ∃ s, warnIfLockStale c h = (.ok (), s) ∧ Pauses h s ∧ s.warnings = h.warnings ++ staleWarnings c h := by
  obtain ⟨s, hs⟩ := exists_warned (h := h) hg hl
  refine ⟨s, hs, pauses_of_within (within_warnIfLockStale Host.frame_idles c) hc hs, ?_⟩
  unfold warnIfLockStale at hs
  rw [bind_of_ok (timeOf_eq hg), bind_of_ok (timeOf_eq hl)] at hs
  unfold staleWarnings timeAt
  split_ifs at hs ⊢ with hstale
  · rw [← warnings_log hc part .warning s!"[owl:cache] {staleLockMessage c}" true, ← warnings_note_warned]
    exact congrArg (fun r => r.2.warnings) hs.symm
  · obtain rfl := congrArg Prod.snd hs
    exact (List.append_nil _).symm

theorem runsAlike_readOrRebuild (a : Alongside P h k) (hs : k.files.status k.workingDirectory c.cacheFilePath.spelling =
    h.files.status h.workingDirectory c.cacheFilePath.spelling) : RunsAlike P (readOrRebuild c) h k := by
  have hread : RunsAlike P (readRecord c.cacheFilePath) h k :=
    runsAlike_lookOrFail a (by simp only [FileSystem.read, hs])
  refine hread.attempt.bind fun r h' k' _ _ a' => ?_
  split
  · exact alike_bind (alike_log _ _ _) (fun _ => alike_pure _) h' k' a'
  · refine alike_ite (alike_fail _) ?_ h' k' a'
    exact alike_bind (alike_log _ _ _) fun _ => alike_rebuild c
  · exact alike_fail _ h' k' a'

/-- A load ends the same on two machines that are the same but for the manifest. -/
theorem loadOrRebuild_sameEnd (hc : h.LogsToConsole) (hd : SameButManifest c g l h k) :
    SameEnd (fun q => q = g ∨ q = l) (loadOrRebuild c h) (loadOrRebuild c k) := by
  have a := hd.alongside hc
  rw [loadOrRebuild_eq]
  refine (alike_checkManifest c h k a).toSameEnd.bind fun _ h' k' hh hk _ => ?_
  obtain ⟨rfl, hg, hl⟩ := checkManifest_ok hh
  obtain ⟨rfl, -, -⟩ := checkManifest_ok hk
  refine (alike_ensureCacheFile c _ _ a).toSameEnd.bind fun usable h₁ k₁ hh₁ hk₁ a₁ => ?_
  obtain ⟨-, hcache, -⟩ := ensureCacheFile_servesFile hh₁
  -- one of the machines may get the warning and the other not
  obtain ⟨s, hs, hps, -⟩ := warnIfLockStale_warns a₁.console hg.1 hl.1
  obtain ⟨t, ht, hpt, -⟩ := warnIfLockStale_warns a₁.console' hg.1 hl.1
  have a₂ := a₁.pause hps hpt
  rw [proceed_of_warned hs hl.1 hcache, proceed_of_warned ht hl.1 hcache]
  cases usable with
  | false => exact (alike_rebuildFor c _ s t a₂).toSameEnd
  | true =>
      obtain ⟨rfl, -⟩ := ensureCacheFile_true hh₁
      obtain ⟨rfl, -⟩ := ensureCacheFile_true hk₁
      have hstatus : t.files.status t.workingDirectory c.cacheFilePath.spelling =
          s.files.status s.workingDirectory c.cacheFilePath.spelling := by
        rw [hpt.files, hps.files, hpt.continues.workingDirectory, hps.continues.workingDirectory, hd.status_cacheFile]
      have hlock : timeAt t c.gemfileLockPath = timeAt s c.gemfileLockPath := by
        rw [timeAt_of_pauses hps, timeAt_of_pauses hpt, hd.timeAt_lock]
      rw [timeAt_congr hstatus, hlock]
      simp only [Bool.not_true, Bool.false_eq_true, if_false]
      split_ifs
      · exact (alike_rebuildFor c _ s t a₂).toSameEnd
      · exact (runsAlike_readOrRebuild a₂ hstatus).toSameEnd

/-! ### The warnings of a load -/

theorem warnings_of_alike {α : Type} {act : Action α} (ha : Alike (fun _ => False) act) (hc : h.LogsToConsole) :
    (act h).2.warnings = h.warnings :=
  (ha h h (.refl hc)).quiet.1

theorem proceed_warnings (hc : h.LogsToConsole) (hg : Pathname.holdsNul c.gemfilePath.spelling = false)
    (hl : Pathname.holdsNul c.gemfileLockPath.spelling = false)
    (hcache : Pathname.holdsNul c.cacheFilePath.spelling = false) (usable : Bool) :
    (proceed c usable h).2.warnings = h.warnings ++ staleWarnings c h := by
  obtain ⟨s, hs, hp, hwarns⟩ := warnIfLockStale_warns hc hg hl
  have hcs := hp.continues.logsToConsole hc
  rw [proceed_of_warned hs hl hcache, ← hwarns]
  split_ifs
  · exact warnings_of_alike (alike_rebuildFor c _) hcs
  · exact warnings_of_alike (alike_rebuildFor c _) hcs
  · exact (runsAlike_readOrRebuild (P := fun _ => False) (.refl hcs) rfl).quiet.1

/-- A load gives the warning that is called for after the checks of the manifest and of the cache file. -/
theorem loadOrRebuild_warnings (hc : h.LogsToConsole) (hp : PassesChecks c h h₁) :
    (loadOrRebuild c h).2.warnings = h.warnings ++ staleWarnings c h₁ := by
  obtain ⟨hmanifest, usable, hensure⟩ := hp
  obtain ⟨-, hg, hl⟩ := checkManifest_ok hmanifest
  obtain ⟨-, hcache, -⟩ := ensureCacheFile_servesFile hensure
  have hquiet : h₁.warnings = h.warnings := by
    have hsame := warnings_of_alike (alike_ensureCacheFile c) hc
    rwa [hensure] at hsame
  rw [loadOrRebuild_eq, bind_of_ok hmanifest, bind_of_ok hensure, ← hquiet]
  exact proceed_warnings ((ensureCacheFile_continues hensure).logsToConsole hc) hg.1 hl.1 hcache usable

/-- A load that ends at a check warns no one. -/
theorem loadOrRebuild_quiet (hc : h.LogsToConsole) (hp : ∀ h₁, ¬PassesChecks c h h₁) :
    (loadOrRebuild c h).2.warnings = h.warnings := by
  have hchecks : Alike (fun _ => False) (checkManifest c >>= fun _ => ensureCacheFile c) :=
    alike_bind (alike_checkManifest c) fun _ => alike_ensureCacheFile c
  have hquiet := warnings_of_alike hchecks hc
  rw [loadOrRebuild_eq]
  rcases hm : checkManifest c h with ⟨e | u, h'⟩
  · rw [bind_of_error hm] at hquiet ⊢
    exact hquiet
  · obtain ⟨rfl, -⟩ := checkManifest_ok hm
    rw [bind_of_ok hm] at hquiet ⊢
    rcases he : ensureCacheFile c h' with ⟨e | usable, h₁⟩
    · rw [bind_of_error he]
      rwa [he] at hquiet
    · exact absurd ⟨hm, usable, he⟩ (hp h₁)

/-- The check of the cache file leaves a file alone to which the path of the cache file does not lead afterwards. -/
theorem node?_of_ensureCacheFile (ha : ensureCacheFile c h = (.ok usable, h₁)) (hn : h.files.node? q = some n)
    (hf : n.isFile = true) (hq : h₁.files.resolve h₁.workingDirectory true c.cacheFilePath.spelling ≠ .ok (.found q)) :
    h₁.files.node? q = some n := by
  have hkept {fs : FileSystem} (hk : Keeps h.files fs) : fs.node? q = some n := by
    obtain ⟨n', hn', hk'⟩ := hk q n hn
    rw [hn', hk'.eq (Node.isDirectory_of_isFile hf)]
  rcases ensureCacheFile_cases ha with ⟨-, e, he⟩ | ⟨rfl, -⟩ | ⟨-, hp⟩
  · cases he
  · exact hn
  obtain ⟨r₁, s₁, h₁, ⟨-, e, he⟩ | ⟨r₂, s₂, h₂, ⟨-, e, he⟩ | ⟨fs, -, hw, rfl, -⟩⟩⟩ := writePlaceholder_cases hp
  · cases he
  · cases he
  have hk := (makePath_keeps h₁).2.trans (makePath_keeps h₂).2
  rcases write_ok hw with ⟨d, name, -, -, hadds⟩ | ⟨place, old, hfound, hwrites⟩
  · exact hkept (hk.trans hadds.keeps)
  · have hne : q ≠ place := fun heq => hq (heq ▸ resolve_grow hwrites.grows hfound)
    exact (hwrites.node?_eq q).trans ((if_neg hne).trans (hkept hk))

theorem timeAt_of_ensureCacheFile (ha : ensureCacheFile c h = (.ok usable, h₁))
    (hq : h.files.resolve h.workingDirectory true path.spelling = .ok (.found q)) (hn : h.files.node? q = some n)
    (hf : n.isFile = true) (hne : h₁.files.resolve h₁.workingDirectory true c.cacheFilePath.spelling ≠ .ok (.found q)) :
    timeAt h₁ path = timeAt h path := by
  have hs : h.files.status h.workingDirectory path.spelling = .ok n := status_eq_ok_iff.2 ⟨q, hq, hn⟩
  refine timeAt_congr (Eq.trans (status_eq_ok_iff.2 ⟨q, ?_, node?_of_ensureCacheFile ha hn hf hne⟩) hs.symm)
  rw [(ensureCacheFile_continues ha).workingDirectory]
  exact resolve_grow (ensureCacheFile_servesFile ha).1 hq

/-- The warning is called for by the times before, unless the placeholder has been written to one of the two files. -/
theorem SameButManifest.staleWarnings_eq (hd : SameButManifest c g l h k) (hp : PassesChecks c h h₁)
    (hne : LeadsElsewhere c g l h₁) : staleWarnings c h₁ = staleWarnings c h := by
  obtain ⟨-, usable, hensure⟩ := hp
  obtain ⟨n, -, hn, -, hf, -⟩ := hd.atGemfile
  obtain ⟨m, -, hm, -, hf', -⟩ := hd.atLock
  have hgemfile : timeAt h₁ c.gemfilePath = timeAt h c.gemfilePath :=
    timeAt_of_ensureCacheFile hensure hd.gemfile hn hf fun hg => (hne g hg).1 rfl
  have hlock : timeAt h₁ c.gemfileLockPath = timeAt h c.gemfileLockPath :=
    timeAt_of_ensureCacheFile hensure hd.lock hm hf' fun hl => (hne l hl).2 rfl
  rw [staleWarnings, staleWarnings, hgemfile, hlock]

/-- The manifest may be replaced by another file of the same mode. -/
theorem sameButManifest_put (n' : Node) {n m : Node}
    (hgemfile : h.files.resolve h.workingDirectory true c.gemfilePath.spelling = .ok (.found g))
    (hlock : h.files.resolve h.workingDirectory true c.gemfileLockPath.spelling = .ok (.found l)) (hne : l ≠ g)
    (hn : h.files.node? g = some n) (hf : n.isFile = true) (hf' : n'.isFile = true) (hmode : n'.mode = n.mode)
    (hm : h.files.node? l = some m) (hfm : m.isFile = true) (hcache : LeadsElsewhere c g l h) :
    SameButManifest c g l h { h with files := h.files.put g n' } := by
  have hput : h.files.admits g n' = true := by
    refine admits_of_node? hn (fun hd => ?_) (fun hroot => ?_)
    · rw [Node.isDirectory_of_isFile hf] at hd
      cases hd
    · have hdir := isDirectoryAt_root h.files
      rw [← hroot, isDirectoryAt_of_node? hn, Node.isDirectory_of_isFile hf] at hdir
      cases hdir
  exact {
    files := rfl
    gemfile := hgemfile
    lock := hlock
    atGemfile := ⟨n, n', hn, by rw [node?_put hput, if_pos rfl], hf, hf', hmode⟩
    atLock := ⟨m, m, hm, by rw [node?_put hput, if_neg hne, hm], hfm, hfm, rfl, rfl⟩
    elsewhere := fun q hg _ => by rw [node?_put hput, if_neg hg]
    cacheFile := hcache }

end Cache

namespace Store

open Pathname (ofText)
open Cache (LeadsElsewhere PassesChecks SameButManifest staleLockMessage staleWarnings timeAt)

variable {s : Store} {g l : Location} {h k : Host}

/-- The warning about a stale lock file never changes what a new store loads. On two machines that are the same but for the
manifest the load gives the same, runs the load-path command alike and leaves the same files elsewhere. On each it gives
the warning once or not, by the times of the two files after the check of the cache file. These are the times before,
unless the path of the cache file then leads to one of the two. -/
theorem load_same_but_for_warning (hs : s.loaded = none) (hc : h.LogsToConsole) (hd : SameButManifest s.config g l h k) :
    (s.load k).1 = (s.load h).1 ∧ (s.load k).2.toolRuns = (s.load h).2.toolRuns ∧
    (∀ q, q ≠ g → q ≠ l → (s.load k).2.files.node? q = (s.load h).2.files.node? q) ∧
    ∀ m, m = h ∨ m = k →
      (∀ m₁, PassesChecks s.config m m₁ → (s.load m).2.warnings = m.warnings ++ staleWarnings s.config m₁ ∧
        (LeadsElsewhere s.config g l m₁ → staleWarnings s.config m₁ = staleWarnings s.config m)) ∧
      ((∀ m₁, ¬PassesChecks s.config m m₁) → (s.load m).2.warnings = m.warnings) := by
  obtain ⟨hresult, hafter⟩ := Cache.loadOrRebuild_sameEnd hc hd
  have hload (m : Host) : s.load m = s.keeping (Cache.loadOrRebuild s.config) m := by
    rw [load, hs]
  have hhost (m : Host) : (s.load m).2 = (Cache.loadOrRebuild s.config m).2 := by
    rw [hload, keeping_snd]
  have hwarnings {m m' : Host} (hc : m.LogsToConsole) (hd : SameButManifest s.config g l m m') :
      (∀ m₁, PassesChecks s.config m m₁ → (s.load m).2.warnings = m.warnings ++ staleWarnings s.config m₁ ∧
        (LeadsElsewhere s.config g l m₁ → staleWarnings s.config m₁ = staleWarnings s.config m)) ∧
      ((∀ m₁, ¬PassesChecks s.config m m₁) → (s.load m).2.warnings = m.warnings) := by
    rw [hhost]
    exact ⟨fun m₁ hp => ⟨Cache.loadOrRebuild_warnings hc hp, hd.staleWarnings_eq hp⟩, Cache.loadOrRebuild_quiet hc⟩
  refine ⟨?_, ?_, fun q hg hl => ?_, ?_⟩
  · rw [hload, hload, keeping_congr hresult]
  · rw [hhost, hhost, hafter.toolRuns]
  · rw [hhost, hhost, hafter.files.elsewhere q (not_or.2 ⟨hg, hl⟩)]
  · rintro m (rfl | rfl)
    · exact hwarnings hc hd
    · exact hwarnings (hd.alongside hc).console' hd.symm

/-- The sample with other bytes in a manifest that is later than its lock file. -/
def staleHost : Host :=
  { sampleHost with files := sampleFiles.put [ofText "Gemfile", ofText "app"] (Node.newFile (ofText "gem") ⟨50, 0⟩) }

theorem sameButManifest_sample :
    SameButManifest sampleConfig [ofText "Gemfile", ofText "app"] [ofText "Gemfile.lock", ofText "app"] sampleHost
      staleHost := by
  have hn : sampleHost.files.node? [ofText "Gemfile", ofText "app"] = some (Node.newFile [] ⟨10, 0⟩) := by decide
  have hm : sampleHost.files.node? [ofText "Gemfile.lock", ofText "app"] = some (Node.newFile [] ⟨10, 0⟩) := by decide
  have hcache : sampleHost.files.resolve sampleHost.workingDirectory true sampleConfig.cacheFilePath.spelling =
      .error .noEntry := by decide
  refine Cache.sameButManifest_put _ (by decide) (by decide) (by decide) hn rfl rfl rfl hm rfl ?_
  intro q hq
  rw [hcache] at hq
  cases hq

/-- The later manifest is warned about, and the load gives what it gives without the warning. -/
theorem load_same_but_for_warning_sample :
    (load ⟨sampleConfig, none⟩ staleHost).1 = (load ⟨sampleConfig, none⟩ sampleHost).1 ∧
      (load ⟨sampleConfig, none⟩ sampleHost).2.warnings = [] ∧
      (load ⟨sampleConfig, none⟩ staleHost).2.warnings = [staleLockMessage sampleConfig] := by
  obtain ⟨hsame, -, -, hwarns⟩ := load_same_but_for_warning (s := ⟨sampleConfig, none⟩) rfl
    (fun _ hs => absurd hs List.not_mem_nil) sameButManifest_sample
  have helsewhere {m : Host} (hfound : m.files.resolve m.workingDirectory true sampleConfig.cacheFilePath.spelling =
      .ok (.found [ofText "load_paths.json", ofText ".owl_cache", ofText "app"])) :
      LeadsElsewhere sampleConfig [ofText "Gemfile", ofText "app"] [ofText "Gemfile.lock", ofText "app"] m := by
    intro q hq
    rw [hfound] at hq
    cases hq
    decide
  have hpasses : PassesChecks sampleConfig sampleHost (Cache.ensureCacheFile sampleConfig sampleHost).2 :=
    Cache.passesChecks_of_toOption (by decide +kernel) (by decide +kernel)
  have hpasses' : PassesChecks sampleConfig staleHost (Cache.ensureCacheFile sampleConfig staleHost).2 :=
    Cache.passesChecks_of_toOption (by decide +kernel) (by decide +kernel)
  refine ⟨hsame, ?_, ?_⟩
  · rw [((hwarns _ (Or.inl rfl)).1 _ hpasses).1, ((hwarns _ (Or.inl rfl)).1 _ hpasses).2 (helsewhere (by decide +kernel))]
    rw [staleWarnings, if_neg (show ¬timeAt sampleHost sampleConfig.gemfileLockPath < timeAt sampleHost
      sampleConfig.gemfilePath by decide +kernel)]
    rfl
  · rw [((hwarns _ (Or.inr rfl)).1 _ hpasses').1, ((hwarns _ (Or.inr rfl)).1 _ hpasses').2 (helsewhere (by decide +kernel))]
    rw [staleWarnings, if_pos (show timeAt staleHost sampleConfig.gemfileLockPath < timeAt staleHost
      sampleConfig.gemfilePath by decide +kernel)]
    rfl

/-- The sample with a cache file whose path leads to the manifest once its directory is made. -/
def unmadeConfig : Config :=
  { sampleConfig with cacheDir := ofText "new/..", cacheFile := ofText "Gemfile" }

/-- The sample with a lock file that is later than the manifest. -/
def unmadeHost : Host :=
  { sampleHost with files := sampleFiles.put [ofText "Gemfile.lock", ofText "app"] (Node.newFile [] ⟨20, 0⟩) }

/-- A manifest that is older than its lock file is warned about if the placeholder is written to it. -/
theorem warning_after_placeholder :
    ¬∀ (s : Store) (g l : Location) (h k h₁ : Host), s.loaded = none → h.LogsToConsole → h.warnings = [] →
      SameButManifest s.config g l h k → PassesChecks s.config h h₁ →
        (staleLockMessage s.config ∈ (s.load h).2.warnings ↔
          timeAt h s.config.gemfileLockPath < timeAt h s.config.gemfilePath) := by
  intro hall
  have hn : unmadeHost.files.node? [ofText "Gemfile", ofText "app"] = some (Node.newFile [] ⟨10, 0⟩) := by decide +kernel
  have hm : unmadeHost.files.node? [ofText "Gemfile.lock", ofText "app"] = some (Node.newFile [] ⟨20, 0⟩) := by
    decide +kernel
  have hcache : unmadeHost.files.resolve unmadeHost.workingDirectory true unmadeConfig.cacheFilePath.spelling =
      .error .noEntry := by decide +kernel
  have hd := Cache.sameButManifest_put (c := unmadeConfig) (Node.newFile (ofText "gem") ⟨10, 0⟩) (by decide +kernel)
    (by decide +kernel) (by decide) hn rfl rfl rfl hm rfl fun q hq => by
      rw [hcache] at hq
      cases hq
  have hpasses : PassesChecks unmadeConfig unmadeHost (Cache.ensureCacheFile unmadeConfig unmadeHost).2 :=
    Cache.passesChecks_of_toOption (by decide +kernel) (by decide +kernel)
  have hconsole : unmadeHost.LogsToConsole := fun _ hs => absurd hs List.not_mem_nil
  have hlater : timeAt (Cache.ensureCacheFile unmadeConfig unmadeHost).2 unmadeConfig.gemfileLockPath <
      timeAt (Cache.ensureCacheFile unmadeConfig unmadeHost).2 unmadeConfig.gemfilePath := by decide +kernel
  have hwarned := Cache.loadOrRebuild_warnings hconsole hpasses
  rw [staleWarnings, if_pos hlater] at hwarned
  have hmember : staleLockMessage unmadeConfig ∈ (load ⟨unmadeConfig, none⟩ unmadeHost).2.warnings := by
    rw [load, keeping_snd, hwarned]
    exact List.mem_append_right _ List.mem_cons_self
  have hbefore : ¬timeAt unmadeHost unmadeConfig.gemfileLockPath < timeAt unmadeHost unmadeConfig.gemfilePath := by
    decide +kernel
  exact hbefore ((hall ⟨unmadeConfig, none⟩ _ _ unmadeHost _ _ rfl hconsole rfl hd hpasses).1 hmember)

end Store

end RequirePath
