import RequirePath.Proofs.Cache.Cases
import RequirePath.Proofs.Config
import RequirePath.Proofs.File.Replace

/-! Loading again what a load left behind. However the first load came by its answer, the cache file then holds
it, can be used, and is not older than the lock file if that is no later than the clock; so a second store reads
the same load paths and files from it, runs nothing and changes nothing. -/

namespace RequirePath

open FileSystem RequirePath.Action

namespace Cache

variable {c : Config} {l : Loaded} {h h' h₁ : Host} {path : LexicalPath} {record : Record}

/-- What a load leaves behind: a cache file with its answer that the next load reads. -/
structure Settled (c : Config) (l : Loaded) (h : Host) : Prop where
  gemfile : IsManifest h c.gemfilePath
  lock : IsManifest h c.gemfileLockPath
  usable : Usable c h
  fresh : ¬timeAt h c.cacheFilePath < timeAt h c.gemfileLockPath
  holds : ∃ record, Holds c h record ∧ Loaded.ofRecord record = { l with rebuilt := false }

theorem isManifest_of_rests (hr : Rests h h') (hm : IsManifest h path) : IsManifest h' path := by
  rw [IsManifest, hr.files, hr.continues.workingDirectory]
  exact hm

theorem IsManifest.grow (hm : IsManifest h path) (hg : Grows h.files h'.files)
    (hcwd : h'.workingDirectory = h.workingDirectory) : IsManifest h' path := by
  obtain ⟨hnul, n, hs, hf, hr⟩ := hm
  obtain ⟨q, hq, hn⟩ := status_eq_ok_iff.1 hs
  obtain ⟨n', hn', ha⟩ := hg q n hn
  refine ⟨hnul, n', status_eq_ok_iff.2 ⟨q, by rw [hcwd]; exact resolve_grow hg hq, hn'⟩, by rw [ha.isFile_eq, hf], ?_⟩
  rw [Node.readable, ha.1]
  exact hr

/-- The check of the cache file leaves a path that serves a file, and keeps every node of its kind. -/
theorem ensureCacheFile_servesFile {usable : Bool} (ha : ensureCacheFile c h = (.ok usable, h')) :
    Grows h.files h'.files ∧ Pathname.holdsNul c.cacheFilePath.spelling = false ∧
      ServesFile h'.files h'.workingDirectory c.cacheFilePath.spelling := by
  rcases ensureCacheFile_cases ha with ⟨-, e, he⟩ | ⟨rfl, -, hnul, n, hs, hf, -⟩ | ⟨-, hp⟩
  · cases he
  · obtain ⟨q, hq, hn⟩ := status_eq_ok_iff.1 hs
    exact ⟨grows_refl _, hnul, servesFile_of_found hq hn hf⟩
  · obtain ⟨r₁, s₁, h₁, ⟨-, e, he⟩ | ⟨r₂, s₂, h₂, ⟨-, e, he⟩ | ⟨fs, hnul, hw, rfl, -⟩⟩⟩ :=
      writePlaceholder_cases hp
    · cases he
    · cases he
    · have hk := (makePath_keeps h₁).2.trans (makePath_keeps h₂).2
      exact ⟨hk.grows.trans (write_grows hw), hnul, servesFile_of_write hw⟩

/-- A record that is written where the path of the cache file serves a file is found there; what else led to a
file that may be read does so still. -/
theorem writeRecord_settles {u : Unit} (hs : ServesFile h.files h.workingDirectory c.cacheFilePath.spelling)
    (hc : h.LogsToConsole) (ha : writeRecord c l h = (.ok u, h')) :
    ∃ record, l.record? = some record ∧
      h'.files.status h'.workingDirectory c.cacheFilePath.spelling =
        .ok ⟨.file record.encode, Node.privateMode, h.now⟩ ∧
      ∀ path, IsManifest h path → IsManifest h' path := by
  have hcwd := (writeRecord_continues hc ha).workingDirectory
  obtain ⟨r₁, s₁, h₁, ⟨-, e, he⟩ | ⟨r₂, s₂, h₂, ⟨-, e, he⟩ | ⟨fs₁, d, name, hcreate, hv, hmade, hi⟩⟩⟩ :=
    writeRecord_cases ha
  · cases he
  · cases he
  obtain ⟨hs₁, hk₁⟩ := makePath_keeps h₁
  obtain ⟨hs₂, hk₂⟩ := makePath_keeps h₂
  have hcwd₂ : s₂.workingDirectory = h.workingDirectory := by rw [hs₂, hs₁]
  have hnow₂ : s₂.now = h.now := by rw [hs₂, hs₁]
  obtain ⟨record, fs₂, target, hl, hfill, ht, hsteps, hmoves⟩ := installRecord_ok hmade hi
  have hg : Grows h.files fs₂ := (hk₁.trans hk₂).grows.trans hfill.adds.keeps.grows
  have hserves : ServesFile fs₂ s₂.workingDirectory c.cacheFilePath.spelling := by
    rw [hcwd₂]
    exact hs.grow hg
  obtain ⟨hfound, hswap⟩ := hserves.swaps ht hsteps hmoves rfl
  rw [hfound] at ht
  refine ⟨record, hl, ?_, fun path hm => ?_⟩
  · rw [hcwd, ← hcwd₂, ← hnow₂]
    exact status_eq_ok_iff.2 ⟨_, hswap.resolve_place ht, hmoves.node?_place⟩
  · -- the path may lead through the swapped place, and then to the record, which may be read too
    obtain ⟨hnul, n, hst, hf, hr⟩ := hm
    obtain ⟨q, hq, hn⟩ := status_eq_ok_iff.1 hst
    obtain ⟨n₂, hn₂, halike₂⟩ := (hk₁.trans hk₂).grows q n hn
    have hne : q ≠ name :: d := by
      rintro rfl
      rw [hmade.adds.vacant] at hn₂
      cases hn₂
    obtain ⟨m, hm, halike⟩ := hg q n hn
    have hq₂ : fs₂.resolve h'.workingDirectory true path.spelling = .ok (.found q) := by
      rw [hcwd]
      exact resolve_grow hg hq
    obtain ⟨n', hn', hend⟩ := hswap.status hq₂ hm (by rw [halike.isFile_eq, hf]) hne
    refine ⟨hnul, n', hn', ?_⟩
    rcases hend with ha' | hplace
    · refine ⟨by rw [ha'.isFile_eq, halike.isFile_eq, hf], ?_⟩
      rw [Node.readable, ha'.1, halike.1]
      exact hr
    · have := hplace.symm.trans hmoves.node?_place
      cases this
      exact ⟨rfl, by simp [Node.readable, Node.privateMode]⟩

/-- A rebuild where the path of the cache file serves a file leaves its answer there. -/
theorem rebuild_settles (hc : h.LogsToConsole) (hs : ServesFile h.files h.workingDirectory c.cacheFilePath.spelling)
    (hnul : Pathname.holdsNul c.cacheFilePath.spelling = false) (hg : IsManifest h c.gemfilePath)
    (hl : IsManifest h c.gemfileLockPath) (ha : rebuild c h = (.ok l, h'))
    (ht : ∀ t, h'.files.modified? h'.workingDirectory c.gemfileLockPath.spelling = some t → t ≤ h'.now.inSeconds) :
    Settled c l h' := by
  rcases rebuild_cases hc ha with ⟨-, e, he⟩ | ⟨l', s₁, r₂, s₂, hrest, -, hw, ⟨e, -, he, -⟩ | ⟨rfl, hl', hrest'⟩⟩
  · cases he
  · cases he
  obtain rfl : l = l' := Except.ok.inj hl'
  have hserves : ServesFile s₁.files s₁.workingDirectory c.cacheFilePath.spelling := by
    rw [hrest.files, hrest.continues.workingDirectory]
    exact hs
  have hc₁ := hrest.continues.logsToConsole hc
  obtain ⟨record, hrecord, hstatus, hkeep⟩ := writeRecord_settles hserves hc₁ hw
  have hnow : h'.now = s₁.now := by rw [hrest'.continues.now, (writeRecord_continues hc₁ hw).now]
  have hlock := isManifest_of_rests hrest' (hkeep _ (isManifest_of_rests hrest hl))
  have hstatus' : h'.files.status h'.workingDirectory c.cacheFilePath.spelling =
      .ok ⟨.file record.encode, Node.privateMode, h'.now⟩ := by
    rw [hrest'.files, hrest'.continues.workingDirectory, hstatus, hnow]
  refine ⟨isManifest_of_rests hrest' (hkeep _ (isManifest_of_rests hrest hg)), hlock, ?_, ?_, record, ?_, ?_⟩
  · exact ⟨hnul, _, hstatus', rfl, by simp [Node.readable, Node.privateMode], by simp [Node.writable, Node.privateMode]⟩
  · obtain ⟨-, n, hn, -⟩ := hlock
    have := ht n.modified.inSeconds (by rw [FileSystem.modified?, hn])
    rw [Dyadic.not_le, timeAt, timeAt, FileSystem.modified?, FileSystem.modified?, hn, hstatus']
    exact this
  · refine ⟨hnul, record.encode, read_eq_ok_iff.2 ⟨_, hstatus', by simp [Node.readable, Node.privateMode], rfl⟩, ?_⟩
    exact Record.decode_encode _ record
  · exact Loaded.ofRecord_of_record? hrecord

/-- A load leaves its answer behind if the lock file is not later than the clock. -/
theorem loadOrRebuild_settles (hc : h.LogsToConsole) (ha : loadOrRebuild c h = (.ok l, h'))
    (ht : ∀ t, h'.files.modified? h'.workingDirectory c.gemfileLockPath.spelling = some t → t ≤ h'.now.inSeconds) :
    Settled c l h' := by
  rcases loadOrRebuild_cases hc ha with ⟨-, e, he⟩ | ⟨hg, hl, ⟨e, -, he⟩ | ⟨usable, s₁, hensure, hproceed⟩⟩
  · cases he
  · cases he
  obtain ⟨hgrows, hnul, hserves⟩ := ensureCacheFile_servesFile hensure
  have hs₁ := ensureCacheFile_continues hensure
  have hc₁ := hs₁.logsToConsole hc
  have hg₁ := hg.grow hgrows hs₁.workingDirectory
  have hl₁ := hl.grow hgrows hs₁.workingDirectory
  rcases proceed_cases hc₁ hproceed with ⟨-, e, he⟩ | ⟨rfl, hrest, hfresh, record, hholds, hr⟩ | ⟨s₂, hpause, hreb⟩
  · cases he
  · obtain ⟨rfl, husable⟩ := ensureCacheFile_true hensure
    obtain rfl : l = Loaded.ofRecord record := Except.ok.inj hr
    refine ⟨isManifest_of_rests hrest hg₁, isManifest_of_rests hrest hl₁, ?_, ?_, record, ?_, rfl⟩
    · rw [Usable, hrest.files, hrest.continues.workingDirectory]
      exact husable
    · rw [timeAt, timeAt, hrest.files, hrest.continues.workingDirectory]
      exact hfresh
    · rw [Holds, hrest.files, hrest.continues.workingDirectory]
      exact hholds
  · have hserves₂ : ServesFile s₂.files s₂.workingDirectory c.cacheFilePath.spelling := by
      rw [hpause.files, hpause.continues.workingDirectory]
      exact hserves
    exact rebuild_settles (hpause.continues.logsToConsole hc₁) hserves₂ hnul (isManifest_of_rests hpause.toRests hg₁)
      (isManifest_of_rests hpause.toRests hl₁) hreb ht

end Cache

namespace Store

open Pathname (ofText)

variable {c : Config} {policy : CorruptPolicy} {l : Loaded} {s : Store} {h h₁ h₂ : Host}

/-- A success replaces what the store keeps, a failure does not. -/
theorem keeping_eq {act : Action Loaded} {r : Except Failure Loaded} {s' : Store}
    (ha : s.keeping act h = ((r, s'), h₁)) : act h = (r, h₁) ∧ s' = ⟨s.config, r.toOption.or s.loaded⟩ := by
  unfold keeping at ha
  rcases hact : act h with ⟨e | l, h'⟩
  · rw [hact] at ha
    cases ha
    exact ⟨rfl, rfl⟩
  · rw [hact] at ha
    cases ha
    exact ⟨rfl, rfl⟩

theorem keeping_ok {act : Action Loaded} {s' : Store} (ha : s.keeping act h = ((.ok l, s'), h₁)) :
    act h = (.ok l, h₁) :=
  (keeping_eq ha).1

theorem keeping_snd (s : Store) (act : Action Loaded) (h : Host) : (s.keeping act h).2 = (act h).2 := by
  unfold keeping
  rcases act h with ⟨e | l, h'⟩ <;> rfl

theorem keeping_congr {act : Action Loaded} (hr : (act h₁).1 = (act h).1) :
    (s.keeping act h₁).1 = (s.keeping act h).1 := by
  unfold keeping
  rcases hh : act h with ⟨r, h'⟩
  rcases hk : act h₁ with ⟨r', h₁'⟩
  rw [hh, hk] at hr
  obtain rfl : r' = r := hr
  cases r' <;> rfl

/-- A second store over the files that a load left gives the answer of the first one, from the cache file: the
same load paths and the same files. It does not run the load-path command and changes no file. -/
theorem load_again (hc : h.LogsToConsole) (hload : load ⟨c, none⟩ h = ((.ok l, s), h₁))
    (hlock : ∀ t, h₁.files.modified? h₁.workingDirectory c.gemfileLockPath.spelling = some t → t ≤ h₁.now.inSeconds)
    (hc₂ : h₂.LogsToConsole) (hfiles : h₂.files = h₁.files) (hcwd : h₂.workingDirectory = h₁.workingDirectory) :
    ∃ s' h₃, load ⟨{ c with onCorruptCache := policy }, none⟩ h₂ = ((.ok { l with rebuilt := false }, s'), h₃) ∧
      h₃.files = h₂.files ∧ h₃.toolRuns = h₂.toolRuns := by
  have hfirst : Cache.loadOrRebuild c h = (.ok l, h₁) := keeping_ok hload
  obtain ⟨hg, hl, hu, hfresh, record, hholds, hrecord⟩ := Cache.loadOrRebuild_settles hc hfirst hlock
  -- none of what is settled is about the policy
  have hg₂ : Cache.IsManifest h₂ c.gemfilePath := by rwa [Cache.IsManifest, hfiles, hcwd]
  have hl₂ : Cache.IsManifest h₂ c.gemfileLockPath := by rwa [Cache.IsManifest, hfiles, hcwd]
  have hu₂ : Cache.Usable { c with onCorruptCache := policy } h₂ := by rwa [Cache.Usable, hfiles, hcwd]
  have hfresh₂ : ¬Cache.timeAt h₂ c.cacheFilePath < Cache.timeAt h₂ c.gemfileLockPath := by
    rwa [Cache.timeAt, Cache.timeAt, hfiles, hcwd]
  have hholds₂ : Cache.Holds { c with onCorruptCache := policy } h₂ record := by rwa [Cache.Holds, hfiles, hcwd]
  have hanswer : ∃ h₃, Cache.loadOrRebuild { c with onCorruptCache := policy } h₂ =
      (.ok (Loaded.ofRecord record), h₃) ∧ h₂.Continues h₃ ∧ h₂.Idles h₃ :=
    Cache.loadOrRebuild_of_holds hc₂ hg₂ hl₂ hu₂ hfresh₂ hholds₂
  obtain ⟨h₃, hsecond, -, hidle⟩ := hanswer
  rw [hrecord] at hsecond
  refine ⟨⟨{ c with onCorruptCache := policy }, some { l with rebuilt := false }⟩, h₃, ?_, hidle.1, hidle.2⟩
  simp only [load, keeping, hsecond]

/-- A project with a manifest and a lock file, and a directory beside it with one module. -/
def sampleFiles : FileSystem :=
  let t : Timestamp := ⟨10, 0⟩
  let fs := (FileSystem.empty t).put [ofText "app"] (Node.newDirectory t)
  let fs := fs.put [ofText "Gemfile", ofText "app"] (Node.newFile [] t)
  let fs := fs.put [ofText "Gemfile.lock", ofText "app"] (Node.newFile [] t)
  let fs := fs.put [ofText "lib"] (Node.newDirectory t)
  fs.put [ofText "x.rb", ofText "lib"] (Node.newFile [] t)

/-- The configuration of that project. -/
def sampleConfig : Config where
  projectRoot := ⟨.root, [ofText "app"]⟩
  gemfile := ofText "Gemfile"
  gemfileLock := ofText "Gemfile.lock"
  cacheDir := ofText ".owl_cache"
  cacheFile := ofText "load_paths.json"
  compilerCacheDir := ofText "cc"
  railsMarker := ofText "bin/rails"
  primarySuffix := ofText ".rb"
  compiledSuffix := ofText ".js"
  allowedZones := []
  onCorruptCache := .rebuild
  logLevel := "WARNING"
  logPath := none

/-- The project keeps its cache apart. -/
theorem plainCache_sampleConfig : sampleConfig.PlainCache where
  root := by decide
  cacheDir := by decide
  cacheFile := by decide
  compilerCacheDir := by decide
  distinct := by decide

/-- A machine on which the load-path command prints the other directory. -/
def sampleHost : Host :=
  { files := sampleFiles, now := ⟨100, 0⟩, tool := .finished (ofText "/lib\n") [] 0 }

theorem load_sampleHost :
    (load ⟨sampleConfig, none⟩ sampleHost).1.1.toOption = some ⟨[ofText "/lib"], [ofText "/lib/x.rb"], true⟩ ∧
      (load ⟨sampleConfig, none⟩ sampleHost).2.sinks = [] := by
  decide +kernel

/-- The first load runs the command and finds the module; the second one has it from the cache file, though the
command cannot be started any more. -/
theorem load_again_sample :
    ∃ s₁ h₁, load ⟨sampleConfig, none⟩ sampleHost = ((.ok ⟨[ofText "/lib"], [ofText "/lib/x.rb"], true⟩, s₁), h₁) ∧
      ∃ s₂ h₂, load ⟨{ sampleConfig with onCorruptCache := .fail }, none⟩ { h₁ with tool := .cannotStart .noEntry } =
          ((.ok ⟨[ofText "/lib"], [ofText "/lib/x.rb"], false⟩, s₂), h₂) ∧
        h₂.files = h₁.files ∧ h₂.toolRuns = h₁.toolRuns := by
  obtain ⟨hfirst, hsinks⟩ := load_sampleHost
  have hlock : ((load ⟨sampleConfig, none⟩ sampleHost).2.files.modified? (load ⟨sampleConfig, none⟩ sampleHost).2.workingDirectory
      sampleConfig.gemfileLockPath.spelling).all
        (fun t => decide (t ≤ (load ⟨sampleConfig, none⟩ sampleHost).2.now.inSeconds)) = true := by decide +kernel
  rcases hload : load ⟨sampleConfig, none⟩ sampleHost with ⟨⟨e | l, s₁⟩, h₁⟩
  · rw [hload] at hfirst
    cases hfirst
  · rw [hload] at hfirst hlock hsinks
    obtain rfl : l = ⟨[ofText "/lib"], [ofText "/lib/x.rb"], true⟩ := Option.some.inj hfirst
    have hlog : Host.LogsToConsole { h₁ with tool := .cannotStart .noEntry } := by
      intro s hs
      rw [show h₁.sinks = [] from hsinks] at hs
      cases hs
    refine ⟨s₁, h₁, rfl, load_again (fun _ hs => absurd hs List.not_mem_nil) hload ?_ hlog rfl rfl⟩
    intro t ht
    rw [ht] at hlock
    simpa using hlock

end Store

end RequirePath
