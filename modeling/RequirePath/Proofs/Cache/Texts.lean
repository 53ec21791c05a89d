import RequirePath.Proofs.Cache.Content
import RequirePath.Proofs.Cache.Room
import RequirePath.Proofs.LoadPaths
import RequirePath.Proofs.Path.Texts
import RequirePath.Proofs.Resolver

/-! What can keep a rebuild from succeeding once the load-path command has printed a text and there is room for the
record. The walks pass over what they cannot list or tell the kind of. But a file is indexed whatever the bytes of its
path are, and a record that is to hold a path that is no text is not written. -/

namespace RequirePath

open FileSystem RequirePath.Action
open Pathname (isText text? ofText)

variable {c : Config} {l : Loaded} {h h' h₁ h₂ : Host} {d : Location} {output : List Char} {paths : List Pathname}

/-- There is a record exactly of texts. -/
theorem Loaded.isSome_record? (l : Loaded) :
    l.record?.isSome = (l.loadPaths.all isText && l.entries.all isText) := by
  rw [record?, ← Pathname.isSome_mapM_text?, ← Pathname.isSome_mapM_text?]
  cases l.loadPaths.mapM text? with
  | none => rfl
  | some loadPaths => cases l.entries.mapM text? <;> rfl

namespace Cache

/-- The load-path command ends well and prints a text. -/
structure Prints (c : Config) (h : Host) (output : List Char) : Prop where
  marker : ∃ there, h.files.probe h.workingDirectory (fun _ => true) c.railsMarkerPath.spelling = .ok there
  tool : ∃ stdout stderr, h.tool = .finished stdout stderr 0 ∧ Utf8.decode stdout = .ok output

/-- The load paths that an output of the command lists, and what the walks find below them. -/
def found (c : Config) (h : Host) (output : List Char) : Loaded :=
  let loadPaths := (LoadPaths.parseOutput output).map Utf8.encode
  let entries := loadPaths.flatMap fun root =>
    (Walk.index h.files h.workingDirectory (restriction c) c.suffixes root).1
  ⟨loadPaths, entries, true⟩

theorem enumerate_of_prints (hc : h.LogsToConsole) (hp : Prints c h output) :
    ∃ h', LoadPaths.enumerate c h = (.ok (found c h output).loadPaths, h') ∧ Rests h h' := by
  obtain ⟨there, hmarker⟩ := hp.marker
  obtain ⟨stdout, stderr, htool, hdecode⟩ := hp.tool
  have hfirst : (LoadPaths.enumerate c h).1 = .ok (found c h output).loadPaths := by
    rw [LoadPaths.enumerate_fst hmarker, htool, ← Utf8.encode_of_decode hdecode]
    exact LoadPaths.ofRun_of_text output stderr _
  rcases ha : LoadPaths.enumerate c h with ⟨r, h'⟩
  rw [ha] at hfirst
  obtain rfl : r = _ := hfirst
  exact ⟨h', rfl, rests_of_within (within_enumerate frame_rests (fun _ _ => rfl) c) hc ha⟩

theorem indexLoadPaths_eq {restriction : Walk.Restriction} {suffixes : List Pathname} (hc : h.LogsToConsole) (roots : List Pathname) :
    ∃ h', indexLoadPaths restriction suffixes roots h =
      (.ok (roots.flatMap fun root => (Walk.index h.files h.workingDirectory restriction suffixes root).1), h') ∧
        Rests h h' := by
  rcases ha : indexLoadPaths restriction suffixes roots h with ⟨e | entries, h'⟩
  · exact absurd ha fun ha => failsOnly_indexLoadPaths (P := fun _ => False) restriction suffixes roots h e h' ha
  · rw [indexLoadPaths_ok hc ha]
    exact ⟨h', rfl, rests_of_within (within_indexLoadPaths frame_rests _ _ _) hc ha⟩

theorem writeRecord_of_rests (hr : Rests h h') : (writeRecord c l h').1 = (writeRecord c l h).1 := by
  obtain ⟨events, heq⟩ := ignoresEvents_writeRecord c l h h'.events
  rw [hr.eq_after, heq]

/-- A rebuild gives what the command and the walks find, unless the record of it is not written. -/
theorem rebuild_of_prints (hc : h.LogsToConsole) (hp : Prints c h output) :
    (rebuild c h).1 = (writeRecord c (found c h output) h).1.map fun _ => found c h output := by
  obtain ⟨h₁, henumerate, hrest₁⟩ := enumerate_of_prints hc hp
  obtain ⟨h₂, hindex, hrest₂⟩ := indexLoadPaths_eq (hrest₁.continues.logsToConsole hc) (found c h output).loadPaths
  unfold rebuild
  rw [bind_of_ok henumerate, bind_of_ok hindex, hrest₁.files, hrest₁.continues.workingDirectory]
  rw [← writeRecord_of_rests (hrest₁.trans hrest₂)]
  change ((writeRecord c (found c h output) >>= _) h₂).1 = _
  rcases hwrite : writeRecord c (found c h output) h₂ with ⟨e | u, h₃⟩
  · rw [bind_of_error hwrite]
    rfl
  · rw [bind_of_ok hwrite]
    rfl

theorem all_isText_loadPaths (c : Config) (h : Host) (output : List Char) :
    (found c h output).loadPaths.all isText = true := by
  rw [found, List.all_map, List.all_eq_true]
  exact fun line _ => Pathname.isText_encode line

/-- The directories of the cache can be made, and there is room for a record then. -/
def MakesRoom (c : Config) (h : Host) : Prop :=
  ∃ h₁ h₂ d, makePath c.cacheDirPath h = (.ok (), h₁) ∧ makePath c.compilerCachePath h₁ = (.ok (), h₂) ∧ Room c h₂ d

theorem makesRoom_of_makes (hfirst : (makePath c.cacheDirPath h).1.toOption = some ())
    (hsecond : (makePath c.compilerCachePath (makePath c.cacheDirPath h).2).1.toOption = some ())
    (hr : Room c (makePath c.compilerCachePath (makePath c.cacheDirPath h).2).2 d) : MakesRoom c h :=
  ⟨_, _, d, Prod.ext (eq_ok_of_toOption hfirst) rfl, Prod.ext (eq_ok_of_toOption hsecond) rfl, hr⟩

/-- Where there is room, a rebuild fails exactly if it finds a path that is no text. -/
theorem rebuild_of_room (hc : h.LogsToConsole) (hp : Prints c h output) (hdir : c.cacheDirPath.Normal)
    (hfile : IsPlainName c.cacheFile) (hr : MakesRoom c h) :
    (rebuild c h).1 =
      if (found c h output).entries.all isText then .ok (found c h output) else .error .notText := by
  obtain ⟨h₁, h₂, d, hfirst, hsecond, hroom⟩ := hr
  rw [rebuild_of_prints hc hp, writeRecord_of_room hdir hfile hfirst hsecond hroom, Loaded.isSome_record?,
    all_isText_loadPaths, Bool.true_and]
  split_ifs <;> rfl

end Cache

namespace Store

/-- Where the command prints a text and there is room for the record, a rebuild succeeds with all that the walks find
if the paths of all files are texts. One file whose path is no text makes it fail, and the store stays as it was. -/
theorem rebuild_needs_texts (s : Store) (hc : h.LogsToConsole) (hp : Cache.Prints s.config h output)
    (hdir : s.config.cacheDirPath.Normal) (hfile : IsPlainName s.config.cacheFile) (hr : Cache.MakesRoom s.config h) :
    (s.rebuild h).1 =
      let found := Cache.found s.config h output
      if found.entries.all isText then (.ok found, { s with loaded := some found }) else (.error .notText, s) := by
  have hanswer := Cache.rebuild_of_room hc hp hdir hfile hr
  unfold rebuild keeping
  rcases ha : Cache.rebuild s.config h with ⟨r, h'⟩
  obtain rfl : r = _ := (congrArg Prod.fst ha).symm.trans hanswer
  dsimp only
  split_ifs <;> rfl

/-- The sample with another load path, and a file in it. -/
def sampleBeside (name : Filename) : Host :=
  let t : Timestamp := ⟨10, 0⟩
  let fs := sampleFiles.put [ofText "gem"] (Node.newDirectory t)
  { sampleHost with
    files := fs.put [name, ofText "gem"] (Node.newFile [] t), tool := .finished (ofText "/lib\n/gem\n") [] 0 }

/-- A file whose path is text is found with the module of the sample, and the rebuild succeeds. -/
theorem rebuild_needs_texts_sample :
    let found : Loaded := ⟨[ofText "/lib", ofText "/gem"], [ofText "/lib/x.rb", ofText "/gem/y.rb"], true⟩
    (rebuild ⟨sampleConfig, none⟩ (sampleBeside (ofText "y.rb"))).1 = (.ok found, ⟨sampleConfig, some found⟩) := by
  intro found
  let h := sampleBeside (ofText "y.rb")
  have hprints : Cache.Prints sampleConfig h "/lib\n/gem\n".toList :=
    ⟨⟨false, by decide +kernel⟩, ofText "/lib\n/gem\n", [], rfl, by decide⟩
  have hroom : Cache.MakesRoom sampleConfig h :=
    Cache.makesRoom_of_makes (d := [ofText ".owl_cache", ofText "app"]) (by decide +kernel) (by decide +kernel) (by decide +kernel)
  have hfound : Cache.found sampleConfig h "/lib\n/gem\n".toList = found := by decide +kernel
  have htexts : found.entries.all isText = true := by decide
  rw [rebuild_needs_texts ⟨sampleConfig, none⟩ (fun _ hs => absurd hs List.not_mem_nil) hprints
    plainCache_sampleConfig.normal plainCache_sampleConfig.cacheFile hroom]
  simp only [hfound, htexts, if_true]

/-- The name of a module whose first byte is no text. -/
def rawName : Filename := 0xff :: ofText ".rb"

/-- A module whose name is no text breaks a rebuild that has room for its record and whose load-path command works. -/
theorem rebuild_aborts_at_rawName :
    ¬∀ (c : Config) (h : Host) (output : List Char), h.LogsToConsole → Cache.Prints c h output →
      c.cacheDirPath.Normal → IsPlainName c.cacheFile → Cache.MakesRoom c h →
        ∃ l, (rebuild ⟨c, none⟩ h).1 = (.ok l, ⟨c, some l⟩) := by
  intro hall
  let h := sampleBeside rawName
  have hprints : Cache.Prints sampleConfig h "/lib\n/gem\n".toList :=
    ⟨⟨false, by decide +kernel⟩, ofText "/lib\n/gem\n", [], rfl, by decide⟩
  have hroom : Cache.MakesRoom sampleConfig h :=
    Cache.makesRoom_of_makes (d := [ofText ".owl_cache", ofText "app"]) (by decide +kernel) (by decide +kernel) (by decide +kernel)
  have hlogs : h.LogsToConsole := fun _ hs => absurd hs List.not_mem_nil
  obtain ⟨l, hok⟩ := hall sampleConfig h _ hlogs hprints plainCache_sampleConfig.normal plainCache_sampleConfig.cacheFile hroom
  have hfails : (rebuild ⟨sampleConfig, none⟩ h).1.1.toOption = none := by decide +kernel
  rw [hok] at hfails
  cases hfails

end Store

end RequirePath
