import RequirePath.Proofs.Cache.Prediction
import RequirePath.Proofs.Cache.Texts

/-! What the answer of a load rests on. There are two kinds of answers and three ways to the second one, of which one
writes a placeholder before. The answer is read from a cache file that is current, and nothing is run or changed; or
the load-path command is run once, and the cache file is left with what it printed and what lies below. -/

namespace RequirePath

open FileSystem RequirePath.Action

namespace Cache

variable {c : Config} {l : Loaded} {h h' : Host} {record : Record} {loadPaths : List Pathname}

/-- The cache file can be used, is not older than the lock file and holds a record. -/
structure Current (c : Config) (h : Host) (record : Record) : Prop where
  usable : Usable c h
  fresh : ¬timeAt h c.cacheFilePath < timeAt h c.gemfileLockPath
  holds : Holds c h record

/-- What a load does that finds the load paths anew. The walks see the files after the placeholder is written, if it is
written. -/
structure Renews (c : Config) (l : Loaded) (h h₁ h' : Host) : Prop where
  prepared : ∃ usable, ensureCacheFile c h = (.ok usable, h₁)
  toolRuns : ∃ rails, (LoadPaths.isRailsProject c h₁).1 = .ok rails ∧
    h'.toolRuns = h.toolRuns ++ [(LoadPaths.command rails, c.workingTree)]
  loadPaths : ∃ stdout stderr output, h.tool = .finished stdout stderr 0 ∧ Utf8.decode stdout = .ok output ∧
    l.loadPaths = (LoadPaths.parseOutput output).map Utf8.encode
  entries : l.entries = l.loadPaths.flatMap fun root =>
    (Walk.index h₁.files h₁.workingDirectory (restriction c) c.suffixes root).1
  stored : ∃ record bytes, h'.files.status h'.workingDirectory c.cacheFilePath.spelling =
      .ok ⟨.file bytes, Node.privateMode, h.now⟩ ∧
    Record.decode c.cacheFilePath.display bytes = .ok record ∧ Loaded.ofRecord record = { l with rebuilt := false }

/-! ### Rebuilds that succeed -/

/-- Load paths are found only if the command ends well and prints a text. -/
theorem prints_of_enumerate (ha : LoadPaths.enumerate c h = (.ok loadPaths, h')) : ∃ output, Prints c h output := by
  obtain ⟨rails, h₁, hrails, -⟩ := of_bind_ok (show (LoadPaths.isRailsProject c >>= _) h = _ from ha)
  obtain ⟨-, hmarker⟩ := probe_ok hrails
  have hrun : LoadPaths.ofRun (LoadPaths.command rails) h.tool = .ok loadPaths := by
    rw [← LoadPaths.enumerate_fst hmarker, ha]
  rcases LoadPaths.ofRun_cases (LoadPaths.command rails) h.tool with ⟨hends, -⟩ | ⟨-, f, hfailure, -⟩
  · obtain ⟨output, stderr, htool⟩ := LoadPaths.exists_text_of_not_fails hends
    exact ⟨output, ⟨rails, hmarker⟩, _, stderr, htool, Utf8.decode_encode output⟩
  · cases hfailure.symm.trans hrun

/-- A rebuild that succeeds gives what the command has printed and the walks find. -/
theorem rebuild_found (hc : h.LogsToConsole) (ha : rebuild c h = (.ok l, h')) :
    ∃ output, Prints c h output ∧ l = found c h output := by
  obtain ⟨loadPaths, h₁, henumerate, -⟩ := of_bind_ok (show (LoadPaths.enumerate c >>= _) h = _ from ha)
  obtain ⟨output, hprints⟩ := prints_of_enumerate henumerate
  refine ⟨output, hprints, ?_⟩
  have hanswer := rebuild_of_prints hc hprints
  rw [ha] at hanswer
  cases hwrite : (writeRecord c (found c h output) h).1 with
  | error e =>
      rw [hwrite] at hanswer
      cases hanswer
  | ok u =>
      rw [hwrite] at hanswer
      exact Except.ok.inj hanswer

/-- A rebuild that succeeds runs the command once. -/
theorem rebuild_ok_runs (hc : h.LogsToConsole) (ha : rebuild c h = (.ok l, h')) :
    ∃ rails, (LoadPaths.isRailsProject c h).1 = .ok rails ∧
      h'.toolRuns = h.toolRuns ++ [(LoadPaths.command rails, c.workingTree)] := by
  rcases rebuild_runs hc ha with hran | ⟨-, e, he, -⟩
  · exact hran
  · cases he

/-- A rebuild that succeeds where the path of the cache file serves a file leaves its record there, with the time of the
clock. -/
theorem rebuild_stores (hc : h.LogsToConsole) (hs : ServesFile h.files h.workingDirectory c.cacheFilePath.spelling)
    (ha : rebuild c h = (.ok l, h')) :
    ∃ record bytes, h'.files.status h'.workingDirectory c.cacheFilePath.spelling =
        .ok ⟨.file bytes, Node.privateMode, h.now⟩ ∧
      Record.decode c.cacheFilePath.display bytes = .ok record ∧ Loaded.ofRecord record = { l with rebuilt := false } := by
  obtain ⟨-, h₁, h₂, hrest₁, hwrite, hrest₂⟩ := rebuild_ok hc ha
  have hs₁ : ServesFile h₁.files h₁.workingDirectory c.cacheFilePath.spelling := by
    rw [hrest₁.files, hrest₁.continues.workingDirectory]
    exact hs
  obtain ⟨record, hrecord, hstatus, -⟩ := writeRecord_settles hs₁ (hrest₁.continues.logsToConsole hc) hwrite
  refine ⟨record, record.encode, ?_, Record.decode_encode _ record, Loaded.ofRecord_of_record? hrecord⟩
  rw [hrest₂.files, hrest₂.continues.workingDirectory, hstatus, hrest₁.continues.now]

/-! ### Loads that succeed -/

/-- A load that succeeds reads a current cache file and leaves it at that, or rebuilds one that is not current. -/
theorem loadOrRebuild_ok_cases (hc : h.LogsToConsole) (ha : loadOrRebuild c h = (.ok l, h')) :
    (∃ record, Current c h record ∧ l = Loaded.ofRecord record ∧ h.Idles h') ∨
    (¬∃ record, Current c h record) ∧ ∃ usable h₁ h₂, ensureCacheFile c h = (.ok usable, h₁) ∧ Pauses h₁ h₂ ∧
      rebuild c h₂ = (.ok l, h') := by
  rcases loadOrRebuild_cases hc ha with ⟨-, e, he⟩ | ⟨hg, hl, ⟨e, -, he⟩ | ⟨usable, h₁, hensure, hproceed⟩⟩
  · cases he
  · cases he
  by_cases hcurrent : ∃ record, Current c h record
  · obtain ⟨record, hcur⟩ := hcurrent
    obtain ⟨h₂, hread, -, hidle⟩ := loadOrRebuild_of_holds hc hg hl hcur.usable hcur.fresh hcur.holds
    obtain ⟨hresult, rfl⟩ := Prod.mk.inj (hread.symm.trans ha)
    exact Or.inl ⟨record, hcur, (Except.ok.inj hresult).symm, hidle⟩
  refine Or.inr ⟨hcurrent, usable, h₁, ?_⟩
  have hc₁ := (ensureCacheFile_continues hensure).logsToConsole hc
  rcases proceed_cases hc₁ hproceed with ⟨-, e, he⟩ | ⟨rfl, -, hfresh, record, hholds, -⟩ | ⟨h₂, hpause, hrebuild⟩
  · cases he
  · obtain ⟨rfl, husable⟩ := ensureCacheFile_true hensure
    exact absurd ⟨record, husable, hfresh, hholds⟩ hcurrent
  · exact ⟨h₂, hensure, hpause, hrebuild⟩

/-- A load that rebuilds does all that it takes. -/
theorem renews_of_rebuild {usable : Bool} {h₁ h₂ : Host} (hc : h.LogsToConsole)
    (hensure : ensureCacheFile c h = (.ok usable, h₁)) (hpause : Pauses h₁ h₂) (ha : rebuild c h₂ = (.ok l, h')) :
    l.rebuilt = true ∧ Renews c l h h₁ h' := by
  have hs₁ := ensureCacheFile_continues hensure
  have hs₂ := hpause.continues
  have hc₂ := hs₂.logsToConsole (hs₁.logsToConsole hc)
  obtain ⟨output, ⟨-, stdout, stderr, htool, hdecode⟩, rfl⟩ := rebuild_found hc₂ ha
  obtain ⟨-, -, hserves⟩ := ensureCacheFile_servesFile hensure
  obtain ⟨rails, hrails, hruns⟩ := rebuild_ok_runs hc₂ ha
  obtain ⟨record, bytes, hstatus, hstored⟩ :=
    rebuild_stores hc₂ (by rw [hpause.files, hs₂.workingDirectory]; exact hserves) ha
  refine ⟨rfl, ⟨usable, hensure⟩, ⟨rails, ?_, ?_⟩, ⟨stdout, stderr, output, ?_, hdecode, rfl⟩, ?_, record, bytes, ?_, hstored⟩
  · rw [← isRailsProject_of_idles hs₂ ⟨hpause.files, hpause.toolRuns⟩, hrails]
  · rw [hruns, hpause.toolRuns, sameRuns_of_ensureCacheFile hc hensure]
  · rw [← htool, hs₂, hs₁]
  · rw [found, hpause.files, hs₂.workingDirectory]
  · rw [hstatus, hs₂.now, hs₁.now]

end Cache

namespace Store

open Pathname (ofText)

variable {c : Config} {l : Loaded} {s : Store} {h h' : Host}

/-- A new store that loads either gives the record of a current cache file and leaves it at that, or says that it has
found the load paths anew, and has: the first exactly if the cache file was current. -/
theorem load_reads_or_renews (hc : h.LogsToConsole) (hload : load ⟨c, none⟩ h = ((.ok l, s), h')) :
    (l.rebuilt = false → h'.files = h.files ∧ h'.toolRuns = h.toolRuns ∧
      ∃ record, Cache.Current c h record ∧ l = Loaded.ofRecord record) ∧
    (l.rebuilt = true → ∃ h₁, Cache.Renews c l h h₁ h') ∧
    (l.rebuilt = false ↔ ∃ record, Cache.Current c h record) := by
  have ha : Cache.loadOrRebuild c h = (.ok l, h') := keeping_ok hload
  rcases Cache.loadOrRebuild_ok_cases hc ha with ⟨record, hcurrent, rfl, hidle⟩ | ⟨hnot, usable, h₁, h₂, hensure, hpause, hre⟩
  · refine ⟨fun _ => ⟨hidle.1, hidle.2, record, hcurrent, rfl⟩, fun hr => ?_, fun _ => ⟨record, hcurrent⟩, fun _ => rfl⟩
    cases hr
  · obtain ⟨hrebuilt, hrenews⟩ := Cache.renews_of_rebuild hc hensure hpause hre
    have hfalse : ¬l.rebuilt = false := by
      rw [hrebuilt]
      exact nofun
    exact ⟨fun hr => absurd hr hfalse, fun _ => ⟨h₁, hrenews⟩, fun hr => absurd hr hfalse, fun hr => absurd hr hnot⟩

/-- The first load runs the command and leaves a record; the second one reads it. -/
theorem load_reads_or_renews_sample :
    ∃ s₁ h₁, load ⟨sampleConfig, none⟩ sampleHost = ((.ok ⟨[ofText "/lib"], [ofText "/lib/x.rb"], true⟩, s₁), h₁) ∧
      (∃ h₀, Cache.Renews sampleConfig ⟨[ofText "/lib"], [ofText "/lib/x.rb"], true⟩ sampleHost h₀ h₁) ∧
      ∃ s₂ h₂, load ⟨sampleConfig, none⟩ h₁ = ((.ok ⟨[ofText "/lib"], [ofText "/lib/x.rb"], false⟩, s₂), h₂) ∧
        h₂.files = h₁.files ∧ h₂.toolRuns = h₁.toolRuns := by
  obtain ⟨hfirst, hsinks⟩ := load_sampleHost
  have hsecond : (load ⟨sampleConfig, none⟩ (load ⟨sampleConfig, none⟩ sampleHost).2).1.1.toOption =
      some ⟨[ofText "/lib"], [ofText "/lib/x.rb"], false⟩ := by decide +kernel
  rcases h₁ : load ⟨sampleConfig, none⟩ sampleHost with ⟨⟨r₁, s₁⟩, host₁⟩
  rw [h₁] at hfirst hsecond hsinks
  obtain rfl := Cache.eq_ok_of_toOption hfirst
  rcases h₂ : load ⟨sampleConfig, none⟩ host₁ with ⟨⟨r₂, s₂⟩, host₂⟩
  rw [h₂] at hsecond
  obtain rfl := Cache.eq_ok_of_toOption hsecond
  have hlog : host₁.LogsToConsole := by
    intro s hs
    rw [hsinks] at hs
    cases hs
  obtain ⟨-, hrenews, -⟩ := load_reads_or_renews (fun _ hs => absurd hs List.not_mem_nil) h₁
  obtain ⟨hreads, -, -⟩ := load_reads_or_renews hlog h₂
  obtain ⟨hfiles, hruns, -⟩ := hreads rfl
  exact ⟨s₁, host₁, rfl, hrenews rfl, s₂, host₂, h₂, hfiles, hruns⟩

end Store

end RequirePath
