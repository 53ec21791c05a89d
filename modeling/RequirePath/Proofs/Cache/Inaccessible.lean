import RequirePath.Proofs.Cache.Texts
import RequirePath.Proofs.Walk.Recursion

/-! Loads that find a cache file that may not be both read and written. The placeholder is written to that file in
place before the rebuild, and not to a new one, so it decides whether the file may be written: if it may, the load
finds everything anew and the record takes the place of the file; if it may not, the load fails there and leaves all
as it was. -/

namespace RequirePath

open FileSystem RequirePath.Action
open Pathname (isText ofText)

namespace Cache

variable {c : Config} {h h' : Host} {d : Location} {n : Node} {output : List Char} {fs : FileSystem}

/-- A project in order, but for a cache file that may not be both read and written. -/
structure Inaccessible (c : Config) (h : Host) (d : Location) (n : Node) : Prop where
  gemfile : IsManifest h c.gemfilePath
  lock : IsManifest h c.gemfileLockPath
  room : Room c h d
  compiler : h.files.directory? h.workingDirectory c.compilerCachePath.spelling = true
  status : h.files.status h.workingDirectory c.cacheFilePath.spelling = .ok n
  isFile : n.isFile = true
  access : (n.readable && n.writable) = false

/-! ### The directories -/

theorem Room.directory? (hr : Room c h d) (hp : c.cacheDirPath.Normal) (hf : IsPlainName c.cacheFile) :
    h.files.directory? h.workingDirectory c.cacheDirPath.spelling = true := by
  have hnul := hr.nul
  rw [show c.cacheFilePath = c.cacheDirPath.entry c.cacheFile from LexicalPath.join_parse_plain _ hf,
    holdsNul_entry_iff hp hf] at hnul
  obtain ⟨node, hnode, hdir⟩ := isDirectoryAt_iff.1 hr.opensAt.2.1
  have hs := status_eq_ok_iff.2 ⟨d, hr.opensAt.1, hnode⟩
  rw [FileSystem.directory?, hnul.1, hs]
  exact hdir

theorem Room.sameShape (hr : Room c h d) (hs : h.files.SameShape fs) : Room c { h with files := fs } d where
  opensAt := hr.opensAt.grow hs.forth
  isWritableAt := by
    rw [hs.isWritableAt_eq]
    exact hr.isWritableAt
  notDirectory := by
    rw [hs.isDirectoryAt_eq]
    exact hr.notDirectory
  nul := hr.nul
  nameLength := hr.nameLength
  pathLength := hr.pathLength
  temporaryLength := hr.temporaryLength
  nodes := by
    rw [hs.length_nodes_eq]
    exact hr.nodes

/-- Directories that are there make room. -/
theorem Room.makesRoom (hr : Room c h d) (hp : c.cacheDirPath.Normal) (hf : IsPlainName c.cacheFile)
    (hd : h.files.directory? h.workingDirectory c.compilerCachePath.spelling = true) : MakesRoom c h :=
  ⟨h, h, d, makePath_of_directory? (hr.directory? hp hf), makePath_of_directory? hd, hr⟩

/-! ### The shape of the files -/

theorem Prints.sameShape (hp : Prints c h output) (hs : h.files.SameShape fs) : Prints c { h with files := fs } output where
  marker := by
    obtain ⟨there, hmarker⟩ := hp.marker
    exact ⟨there, hs.isThere_eq.trans hmarker⟩
  tool := hp.tool

theorem found_eq_of_sameShape (hs : h.files.SameShape fs) : found c { h with files := fs } output = found c h output := by
  simp only [found, Walk.index_eq_of_sameShape hs]

/-! ### The placeholder -/

theorem write_of_unwritable {bytes : List UInt8} {now : Timestamp} {path : Pathname} {cwd : Location}
    (hs : fs.status cwd path = .ok n) (hf : n.isFile = true) (hw : n.writable = false) :
    fs.write cwd path bytes now = .error .accessDenied := by
  obtain ⟨q, hq, hn⟩ := status_eq_ok_iff.1 hs
  simp [FileSystem.write, writeWith, hq, hn, Node.isDirectory_of_isFile hf, hw]

theorem writes_of_writable {path : Pathname} {cwd : Location} (bytes : List UInt8) (now : Timestamp)
    (hs : fs.status cwd path = .ok n) (hf : n.isFile = true) (hw : n.writable = true) :
    ∃ fs' place, fs.write cwd path bytes now = .ok fs' ∧ Writes fs fs' place n bytes now := by
  obtain ⟨q, hq, hn⟩ := status_eq_ok_iff.1 hs
  obtain ⟨fs', hwrite⟩ := write_of_found bytes now hq hn hf hw
  rcases write_ok hwrite with ⟨parent, name, hv, -⟩ | ⟨place, node, hp, hwrites⟩
  · cases hq.symm.trans hv
  · cases hq.symm.trans hp
    cases hn.symm.trans hwrites.found
    exact ⟨fs', q, hwrite, hwrites⟩

namespace Inaccessible

variable (hi : Inaccessible c h d n) (hp : c.PlainCache)
include hi hp

/-- The check of the cache file comes down to the writing of the placeholder. -/
theorem ensureCacheFile_eq : ensureCacheFile c h =
    (Action.write c.cacheFilePath Record.placeholder >>= fun _ => pure false) h := by
  have hprobe : probe Node.isFile c.cacheFilePath h = (.ok true, h) := by
    rw [probe_of_status hi.room.nul hi.status, hi.isFile]
  have hpermits : Action.permits (fun n => n.readable && n.writable) c.cacheFilePath h = (.ok false, h) := by
    rw [permits_of_status hi.status, hi.access]
  have hfirst := makePath_of_directory? (hi.room.directory? hp.normal hp.cacheFile)
  have hsecond := makePath_of_directory? hi.compiler
  unfold ensureCacheFile
  refine (bind_of_ok hprobe).trans ((bind_of_ok hpermits).trans ?_)
  exact (bind_of_ok hfirst).trans (bind_of_ok hsecond)

theorem loadOrRebuild_of_unwritable (hw : n.writable = false) :
    loadOrRebuild c h = (.error (.system .accessDenied (Pathname.quoted c.cacheFilePath.spelling)), h) := by
  have hwrite : Action.write c.cacheFilePath Record.placeholder h =
      (.error (.system .accessDenied (Pathname.quoted c.cacheFilePath.spelling)), h) := by
    simp [Action.write, changeFiles, hi.room.nul, write_of_unwritable hi.status hi.isFile hw]
  rw [loadOrRebuild_eq, bind_of_ok (checkManifest_of_isManifest hi.gemfile hi.lock), bind_eq, hi.ensureCacheFile_eq hp,
    bind_of_error hwrite]

/-- A load whose cache file may be written ends in a rebuild over files of the same shape, where the path of the cache
file serves a file. -/
theorem loadOrRebuild_of_writable (hc : h.LogsToConsole) (hw : n.writable = true) :
    ∃ fs s, h.files.SameShape fs ∧ ServesFile fs h.workingDirectory c.cacheFilePath.spelling ∧
      Rests { h with files := fs } s ∧ loadOrRebuild c h = rebuild c s := by
  obtain ⟨fs, place, hwrite, hwrites⟩ := writes_of_writable Record.placeholder h.now hi.status hi.isFile hw
  have hplaceholder : Action.write c.cacheFilePath Record.placeholder h = (.ok (), { h with files := fs }) := by
    simp [Action.write, changeFiles, hi.room.nul, hwrite]
  have hc₁ : Host.LogsToConsole { h with files := fs } := hc
  obtain ⟨s₁, hs₁, hidles, hproceed⟩ := proceed_eq hc₁ hi.gemfile.1 hi.lock.1 hi.room.nul false
  have hlog := within_log frame_rests part .info "[owl:cache] rebuilding load path cache (cache missing)" s₁
    (hs₁.logsToConsole hc₁)
  refine ⟨fs, _, hwrites.sameShape, servesFile_of_write hwrite, Rests.trans ⟨hs₁, hidles.1⟩ ⟨hlog.1, hlog.2⟩, ?_⟩
  rw [loadOrRebuild_eq, bind_of_ok (checkManifest_of_isManifest hi.gemfile hi.lock), bind_eq, hi.ensureCacheFile_eq hp,
    bind_of_ok hplaceholder]
  exact hproceed

/-- Where the cache file may be written and all paths are texts, a load finds everything anew, and the record is a file
of its own in the place of the cache file. -/
theorem loadOrRebuild_repairs (hc : h.LogsToConsole) (hprints : Prints c h output)
    (htexts : (found c h output).entries.all isText = true) (hw : n.writable = true) :
    ∃ h' record, loadOrRebuild c h = (.ok (found c h output), h') ∧ (found c h output).record? = some record ∧
      h'.files.status h'.workingDirectory c.cacheFilePath.spelling =
        .ok ⟨.file record.encode, Node.privateMode, h.now⟩ := by
  obtain ⟨fs, s, hshape, hserves, hrest, hload⟩ := hi.loadOrRebuild_of_writable hp hc hw
  let h₁ : Host := { h with files := fs }
  have hroom : MakesRoom c h₁ := by
    refine (hi.room.sameShape hshape).makesRoom hp.normal hp.cacheFile ?_
    rw [hshape.directory?_eq]
    exact hi.compiler
  have hanswer : (rebuild c s).1 = .ok (found c h output) := by
    rw [rebuild_of_rests hrest, rebuild_of_room (h := h₁) hc (hprints.sameShape hshape) hp.normal hp.cacheFile hroom,
      found_eq_of_sameShape hshape, htexts]
    rfl
  rcases hrebuild : rebuild c s with ⟨r, h'⟩
  obtain rfl : r = _ := (congrArg Prod.fst hrebuild).symm.trans hanswer
  -- the record is moved to where the path of the cache file serves a file since the placeholder was written
  have hcs := hrest.continues.logsToConsole hc
  obtain ⟨-, s₁, s₂, hrest₁, hwrite, hrest₂⟩ := rebuild_ok hcs hrebuild
  have hrest' := hrest.trans hrest₁
  have hcs₁ := hrest'.continues.logsToConsole hc
  obtain ⟨record, hrecord, hstatus, -⟩ := writeRecord_settles
    (by rw [hrest'.files, hrest'.continues.workingDirectory]; exact hserves) hcs₁ hwrite
  refine ⟨h', record, hload.trans hrebuild, hrecord, ?_⟩
  rw [hrest₂.files, hrest₂.continues.workingDirectory, hstatus, hrest'.continues.now]

end Inaccessible

end Cache

namespace Store

/-- What a load does with a cache file that may not be both read and written, where the command prints a text and all
paths are texts. If the file may be written, the load finds everything anew, and its record is in a file that may be
read and written. If it may not be written, the load fails, and changes neither the store nor the machine. -/
theorem load_of_inaccessible {c : Config} {h : Host} {d : Location} {n : Node} {output : List Char} (hp : c.PlainCache)
    (hc : h.LogsToConsole) (hi : Cache.Inaccessible c h d n) (hprints : Cache.Prints c h output)
    (htexts : (Cache.found c h output).entries.all isText = true) :
    if n.writable then
      ∃ h' record, load ⟨c, none⟩ h = ((.ok (Cache.found c h output), ⟨c, some (Cache.found c h output)⟩), h') ∧
        (Cache.found c h output).record? = some record ∧
        h'.files.status h'.workingDirectory c.cacheFilePath.spelling =
          .ok ⟨.file record.encode, Node.privateMode, h.now⟩
    else
      load ⟨c, none⟩ h =
        ((.error (.system .accessDenied (Pathname.quoted c.cacheFilePath.spelling)), ⟨c, none⟩), h) := by
  cases hw : n.writable with
  | true =>
      obtain ⟨h', record, hload, hrecord, hstatus⟩ := hi.loadOrRebuild_repairs hp hc hprints htexts hw
      exact ⟨h', record, by simp only [load, keeping, hload], hrecord, hstatus⟩
  | false =>
      have hload := hi.loadOrRebuild_of_unwritable hp hw
      simp [load, keeping, hload]

/-- The sample with a cache directory in order and a cache file of some mode. -/
def guardedHost (mode : Nat) : Host :=
  let t : Timestamp := ⟨20, 0⟩
  let fs := sampleFiles.put [ofText ".owl_cache", ofText "app"] (Node.newDirectory t)
  let fs := fs.put [ofText "cc", ofText ".owl_cache", ofText "app"] (Node.newDirectory t)
  let fs := fs.put [ofText "load_paths.json", ofText ".owl_cache", ofText "app"] ⟨.file (ofText "[]"), mode, t⟩
  { sampleHost with files := fs }

/-- Files that may only be written and files that may only be read are inaccessible. -/
theorem inaccessible_guardedHost {mode : Nat} (hmode : mode = 0o222 ∨ mode = 0o444) :
    Cache.Inaccessible sampleConfig (guardedHost mode) [ofText ".owl_cache", ofText "app"]
      ⟨.file (ofText "[]"), mode, ⟨20, 0⟩⟩ := by
  have hcheck : (Cache.checkManifest sampleConfig (guardedHost mode)).1.toOption = some () := by
    rcases hmode with rfl | rfl <;> decide
  obtain ⟨hg, hl⟩ := (Cache.checkManifest_ok (Prod.ext (Cache.eq_ok_of_toOption hcheck) rfl)).2
  refine ⟨hg, hl, ?_, ?_, ?_, rfl, ?_⟩
  all_goals rcases hmode with rfl | rfl <;> decide

theorem prints_guardedHost {mode : Nat} (hmode : mode = 0o222 ∨ mode = 0o444) :
    Cache.Prints sampleConfig (guardedHost mode) "/lib\n".toList := by
  refine ⟨⟨false, ?_⟩, ofText "/lib\n", [], rfl, by decide⟩
  rcases hmode with rfl | rfl <;> decide

theorem found_guardedHost {mode : Nat} (hmode : mode = 0o222 ∨ mode = 0o444) :
    Cache.found sampleConfig (guardedHost mode) "/lib\n".toList = ⟨[ofText "/lib"], [ofText "/lib/x.rb"], true⟩ := by
  rcases hmode with rfl | rfl <;> decide +kernel

/-- A cache file that may only be written is replaced. -/
theorem load_of_inaccessible_sample :
    let found : Loaded := ⟨[ofText "/lib"], [ofText "/lib/x.rb"], true⟩
    ∃ h', load ⟨sampleConfig, none⟩ (guardedHost 0o222) = ((.ok found, ⟨sampleConfig, some found⟩), h') ∧
      h'.files.status h'.workingDirectory sampleConfig.cacheFilePath.spelling =
        .ok ⟨.file (Record.encode ⟨["/lib"], ["/lib/x.rb"]⟩), Node.privateMode, ⟨100, 0⟩⟩ := by
  intro found
  have hfound := found_guardedHost (Or.inl rfl : 0o222 = 0o222 ∨ 0o222 = 0o444)
  have htexts : found.entries.all isText = true := by decide
  have hanswer := load_of_inaccessible plainCache_sampleConfig (h := guardedHost 0o222) (fun _ hs => absurd hs List.not_mem_nil)
    (inaccessible_guardedHost (Or.inl rfl)) (prints_guardedHost (Or.inl rfl)) (by rw [hfound]; exact htexts)
  rw [hfound] at hanswer
  obtain ⟨h', record, hload, hrecord, hstatus⟩ := (if_pos rfl).mp hanswer
  obtain rfl : (⟨["/lib"], ["/lib/x.rb"]⟩ : Record) = record := by
    have hmade : found.record? = some ⟨["/lib"], ["/lib/x.rb"]⟩ := Loaded.record?_map_ofText ["/lib"] ["/lib/x.rb"] true
    exact Option.some.inj (hmade.symm.trans hrecord)
  exact ⟨h', hload, hstatus⟩

/-- A cache file that may only be read is not replaced, and the load fails. -/
theorem load_fails_at_unwritable :
    ¬∀ (c : Config) (h : Host) (d : Location) (n : Node) (output : List Char), c.PlainCache → h.LogsToConsole →
      Cache.Inaccessible c h d n → Cache.Prints c h output → (Cache.found c h output).entries.all isText = true →
        ∃ l s h', load ⟨c, none⟩ h = ((.ok l, s), h') ∧ l.rebuilt = true := by
  intro hall
  have htexts : (Cache.found sampleConfig (guardedHost 0o444) "/lib\n".toList).entries.all isText = true := by
    rw [found_guardedHost (Or.inr rfl)]
    decide
  have hfails : (load ⟨sampleConfig, none⟩ (guardedHost 0o444)).1.1.toOption = none := by decide +kernel
  obtain ⟨l, s, h', hload, -⟩ := hall sampleConfig (guardedHost 0o444) _ _ _ plainCache_sampleConfig
    (fun _ hs => absurd hs List.not_mem_nil) (inaccessible_guardedHost (Or.inr rfl)) (prints_guardedHost (Or.inr rfl)) htexts
  rw [hload] at hfails
  cases hfails

end Store

end RequirePath
