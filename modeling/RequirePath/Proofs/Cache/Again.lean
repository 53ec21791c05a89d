import RequirePath.Proofs.Cache.Freshness
import RequirePath.Proofs.Cache.Rewrite
import RequirePath.Proofs.Walk.Outgrowth

/-! A rebuild after a rebuild. The first one may make directories and the cache file where the walks of the second one go,
but these find nothing in them, so the answer is the same and the same record is written, which there is room for. What
was made can only be seen by a way through it: a path that goes into a new directory and out of it by a double dot may lead
to something that it did not lead to before. -/

namespace RequirePath

open FileSystem RequirePath.Action

namespace Cache

variable {c : Config} {l : Loaded} {h h' : Host} {d place : Location} {name : Filename} {output : List Char}

/-- What a rebuild looks up is not reached by new ways: it can still be found out whether the marker is there, and no load
path with a double dot leads to a directory that was there and did not lead there before. -/
structure KeepsWays (c : Config) (loadPaths : List Pathname) (h h' : Host) : Prop where
  marker : ∃ there, h'.files.probe h'.workingDirectory (fun _ => true) c.railsMarkerPath.spelling = .ok there
  roots : ∀ p ∈ loadPaths, dotDot ∈ steps p → ∀ q, h.files.isDirectoryAt q = true →
    h'.files.locate h'.workingDirectory true p = .ok q → h.files.locate h.workingDirectory true p = .ok q

theorem Rewritable.of_files (hr : Rewritable c h d name place) (hfiles : h'.files = h.files)
    (hcwd : h'.workingDirectory = h.workingDirectory) : Rewritable c h' d name place := by
  obtain ⟨files, cwd⟩ := h
  obtain ⟨files', cwd'⟩ := h'
  dsimp only at hfiles hcwd
  subst hfiles hcwd
  exact ⟨hr.cacheDir, hr.compilerCache, hr.vacant, hr.writable, hr.temporaryNul, hr.cacheNul, hr.named, hr.found, hr.isFile,
    hr.replaceable⟩

/-- The same is found after the file system has outgrown itself. -/
theorem found_of_outgrows (ho : h.files.Outgrows h'.files place) (hl : h.files.LinkFree) (hn : h.files.WellNamed)
    (hn' : h'.files.WellNamed) (hslash : ∀ s ∈ c.suffixes, slash ∉ s)
    (hends : ∀ name d, place = name :: d → Pathname.endsInAny name c.suffixes = false)
    (hcwd : h'.workingDirectory = h.workingDirectory) (hways : KeepsWays c (found c h output).loadPaths h h') :
    found c h' output = found c h output := by
  unfold found
  dsimp only
  rw [List.flatMap_congr fun root hroot => ?_]
  rw [hcwd]
  refine Walk.index_of_outgrows ho hl hn hn' hslash hends fun q hq hlocate => ?_
  by_cases hup : dotDot ∈ steps root
  · exact hways.roots root hroot hup q hq (by rw [hcwd, hlocate])
  · exact ho.locate_back hl hup hq hlocate

/-- What a rebuild leaves where no links are: a file system that has outgrown the one before, with the record at the path of
the cache file. -/
theorem rebuild_leaves (hc : h.LogsToConsole) (hroot : c.projectRoot.Normal) (hl : h.files.LinkFree)
    (ha : rebuild c h = (.ok l, h')) :
    (∃ e, h.files.Outgrows h'.files (c.cacheFilePath.name :: e)) ∧ (h.files.WellNamed → h'.files.WellNamed) ∧
      h'.workingDirectory = h.workingDirectory ∧ ∃ record, l.record? = some record ∧
        h'.files.read h'.workingDirectory c.cacheFilePath.spelling = .ok record.encode := by
  obtain ⟨-, g, g', hrest, hwrite, hrest'⟩ := rebuild_ok hc ha
  obtain ⟨h₁, h₂, fs, d, name, target, record, hi⟩ := exists_installs hwrite
  rw [← hrest.files] at hl ⊢
  rw [hrest'.files, hrest'.continues.workingDirectory]
  obtain ⟨e, he⟩ := hi.exists_location hroot hl
  refine ⟨⟨e, he ▸ hi.outgrows⟩, hi.wellNamed, ?_, record, hi.texts, hi.read_cacheFile hroot hl⟩
  rw [hi.workingDirectory, hrest.continues.workingDirectory]

/-- A rebuild leaves all that the writing of another record needs. -/
theorem rebuild_rewritable (hc : h.LogsToConsole) (hroot : c.projectRoot.Normal) (hl : h.files.LinkFree)
    (ha : rebuild c h = (.ok l, h'))
    (hfresh : (∀ n, c.cacheFilePath.name ≠ temporaryName n) ∨ h'.files.nodes.length < 100000000) :
    ∃ d name place, Rewritable c h' d name place := by
  obtain ⟨-, g, g', hrest, hwrite, hrest'⟩ := rebuild_ok hc ha
  obtain ⟨h₁, h₂, fs, d, name, target, record, hi⟩ := exists_installs hwrite
  rw [← hrest.files] at hl
  rw [hrest'.files] at hfresh
  obtain ⟨name', hr⟩ := hi.rewritable hroot hl hfresh
  exact ⟨d, name', _, hr.of_files hrest'.files hrest'.continues.workingDirectory⟩

end Cache

namespace Store

open Pathname (ofText)

variable {s s' s₁ : Store} {l : Loaded} {h h₁ h₂ : Host}

/-- A rebuild does not see what a rebuild has left: over the same files, with the same output of the load-path command, any
store of the configuration finds the same at any time, and the cache file gets the same bytes. This leaves out new ways to
what was there, and a cache file with the name of a new file among more nodes than there are names of its length. -/
theorem rebuild_again (hc : h.LogsToConsole) (hroot : s.config.projectRoot.Normal)
    (hslash : ∀ suffix ∈ s.config.suffixes, slash ∉ suffix)
    (hends : Pathname.endsInAny s.config.cacheFilePath.name s.config.suffixes = false)
    (hl : h.files.LinkFree) (hn : h.files.WellNamed) (ha : s.rebuild h = ((.ok l, s₁), h₁))
    (hconfig : s'.config = s.config) (hc₂ : h₂.LogsToConsole) (hfiles : h₂.files = h₁.files)
    (hcwd : h₂.workingDirectory = h₁.workingDirectory) (htool : h₂.tool = h.tool)
    (hways : Cache.KeepsWays s.config l.loadPaths h h₂)
    (hfresh : (∀ n, s.config.cacheFilePath.name ≠ Cache.temporaryName n) ∨ h₁.files.nodes.length < 100000000) :
    ∃ record h₃, s'.rebuild h₂ = ((.ok l, { s' with loaded := some l }), h₃) ∧ l.record? = some record ∧
      h₁.files.read h₁.workingDirectory s.config.cacheFilePath.spelling = .ok record.encode ∧
      h₃.files.read h₃.workingDirectory s.config.cacheFilePath.spelling = .ok record.encode := by
  have hrebuild : Cache.rebuild s.config h = (.ok l, h₁) := keeping_ok ha
  obtain ⟨⟨e, ho⟩, hn₁, hcwd₁, record, hrecord, hread⟩ := Cache.rebuild_leaves hc hroot hl hrebuild
  obtain ⟨d, name, place, hr⟩ := Cache.rebuild_rewritable hc hroot hl hrebuild hfresh
  obtain ⟨output, hprints, rfl⟩ := Cache.rebuild_found hc hrebuild
  rw [← hfiles] at ho hn₁
  have hends' : ∀ name d, s.config.cacheFilePath.name :: e = name :: d →
      Pathname.endsInAny name s.config.suffixes = false := by
    rintro name d heq
    rw [← (List.cons.inj heq).1, hends]
  have hfound : Cache.found s.config h₂ output = Cache.found s.config h output :=
    Cache.found_of_outgrows ho hl hn (hn₁ hn) hslash hends' (hcwd.trans hcwd₁) hways
  have hprints₂ : Cache.Prints s.config h₂ output := ⟨hways.marker, by rw [htool]; exact hprints.tool⟩
  obtain ⟨h₄, hwrite⟩ := (hr.of_files hfiles hcwd).exists_written hrecord
  have hanswer := Cache.rebuild_of_prints hc₂ hprints₂
  rw [hfound, hwrite] at hanswer
  rcases hagain : Cache.rebuild s.config h₂ with ⟨r, h₃⟩
  rw [hagain] at hanswer
  obtain rfl : r = .ok (Cache.found s.config h output) := hanswer
  obtain ⟨-, -, -, record', hrecord', hread'⟩ := Cache.rebuild_leaves hc₂ hroot (ho.linkFree hl) hagain
  obtain rfl : record' = record := Option.some.inj (hrecord'.symm.trans hrecord)
  refine ⟨record', h₃, ?_, hrecord, hread, hread'⟩
  have hstore : Cache.rebuild s'.config h₂ = (.ok (Cache.found s.config h output), h₃) := by rw [hconfig, hagain]
  unfold rebuild keeping
  rw [hstore]

/-- A configuration whose cache lies in the load path of the sample. -/
def nestedConfig : Config := { sampleConfig with cacheDir := ofText "/lib/cache" }

/-- The walk of the second rebuild goes into the cache directory, and finds nothing there. -/
theorem rebuild_again_sample :
    let l : Loaded := ⟨[ofText "/lib"], [ofText "/lib/x.rb"], true⟩
    ∃ s₁ h₁, rebuild ⟨nestedConfig, none⟩ sampleHost = ((.ok l, s₁), h₁) ∧
      ∃ record h₃, rebuild ⟨nestedConfig, none⟩ { h₁ with now := ⟨200, 0⟩ } = ((.ok l, ⟨nestedConfig, some l⟩), h₃) ∧
        l.record? = some record ∧
        h₁.files.read h₁.workingDirectory nestedConfig.cacheFilePath.spelling = .ok record.encode ∧
        h₃.files.read h₃.workingDirectory nestedConfig.cacheFilePath.spelling = .ok record.encode := by
  intro l
  have hfirst : (rebuild ⟨nestedConfig, none⟩ sampleHost).1.1.toOption = some l := by decide +kernel
  have hsinks : (rebuild ⟨nestedConfig, none⟩ sampleHost).2.sinks = [] := by decide +kernel
  have htool : (rebuild ⟨nestedConfig, none⟩ sampleHost).2.tool = sampleHost.tool := by decide +kernel
  have hnodes : (rebuild ⟨nestedConfig, none⟩ sampleHost).2.files.nodes.length < 100000000 := by decide +kernel
  have hmarker : (rebuild ⟨nestedConfig, none⟩ sampleHost).2.files.probe (rebuild ⟨nestedConfig, none⟩ sampleHost).2.workingDirectory
      (fun _ => true) nestedConfig.railsMarkerPath.spelling = .ok false := by decide +kernel
  rcases ha : rebuild ⟨nestedConfig, none⟩ sampleHost with ⟨⟨r, s₁⟩, h₁⟩
  rw [ha] at hfirst hsinks htool hnodes hmarker
  obtain rfl := Cache.eq_ok_of_toOption hfirst
  have hlogs : Host.LogsToConsole sampleHost := fun _ hs => absurd hs List.not_mem_nil
  have hlogs₁ : h₁.LogsToConsole := by
    intro s hs
    rw [show h₁.sinks = [] from hsinks] at hs
    cases hs
  have hup : ∀ p ∈ l.loadPaths, dotDot ∉ steps p := by decide
  have hways : Cache.KeepsWays nestedConfig l.loadPaths sampleHost { h₁ with now := ⟨200, 0⟩ } :=
    ⟨⟨false, hmarker⟩, fun p hp hdots => absurd hdots (hup p hp)⟩
  refine ⟨s₁, h₁, rfl, ?_⟩
  exact @rebuild_again ⟨nestedConfig, none⟩ ⟨nestedConfig, none⟩ s₁ l sampleHost h₁ { h₁ with now := ⟨200, 0⟩ } hlogs (by decide)
    (by decide) (by decide) (by decide +kernel) (by decide +kernel) ha rfl hlogs₁ rfl rfl htool hways (Or.inr hnodes)

/-- The sample with a load path that goes into a cache directory beside it and out again. -/
def detourHost : Host := { sampleHost with tool := .finished (ofText "/cache/../lib\n") [] 0 }

/-- A load path leads nowhere until the cache directory that it goes through is made; a second rebuild finds the module
that it leads to then. -/
theorem rebuild_sees_detour :
    ¬∀ (s s' s₁ : Store) (h h₁ h₂ : Host) (l : Loaded), h.LogsToConsole → s.config.projectRoot.Normal →
      (∀ suffix ∈ s.config.suffixes, slash ∉ suffix) →
      Pathname.endsInAny s.config.cacheFilePath.name s.config.suffixes = false → h.files.LinkFree → h.files.WellNamed →
      s.rebuild h = ((.ok l, s₁), h₁) → s'.config = s.config → h₂.LogsToConsole → h₂.files = h₁.files →
      h₂.workingDirectory = h₁.workingDirectory → h₂.tool = h.tool →
      ∃ l₂ s₂ h₃, s'.rebuild h₂ = ((.ok l₂, s₂), h₃) ∧ l₂.loadPaths = l.loadPaths ∧ l₂.entries = l.entries := by
  intro hall
  let c : Config := { sampleConfig with cacheDir := ofText "/cache" }
  have hfirst : (rebuild ⟨c, none⟩ detourHost).1.1.toOption = some ⟨[ofText "/cache/../lib"], [], true⟩ := by decide +kernel
  have hsecond : (rebuild ⟨c, none⟩ (rebuild ⟨c, none⟩ detourHost).2).1.1.toOption =
      some ⟨[ofText "/cache/../lib"], [ofText "/cache/../lib/x.rb"], true⟩ := by decide +kernel
  have hsinks : (rebuild ⟨c, none⟩ detourHost).2.sinks = [] := by decide +kernel
  have htool : (rebuild ⟨c, none⟩ detourHost).2.tool = detourHost.tool := by decide +kernel
  rcases ha : rebuild ⟨c, none⟩ detourHost with ⟨⟨r, s₁⟩, h₁⟩
  rw [ha] at hfirst hsecond hsinks htool
  obtain rfl := Cache.eq_ok_of_toOption hfirst
  have hlogs : h₁.LogsToConsole := by
    intro s hs
    rw [show h₁.sinks = [] from hsinks] at hs
    cases hs
  obtain ⟨l₂, s₂, h₃, hagain, -, hentries⟩ := hall ⟨c, none⟩ ⟨c, none⟩ s₁ detourHost h₁ h₁ _
    (fun _ hs => absurd hs List.not_mem_nil) (by decide) (by decide) (by decide) (by decide +kernel) (by decide +kernel) ha rfl
    hlogs rfl rfl htool
  rw [hagain] at hsecond
  obtain rfl : l₂ = _ := Option.some.inj hsecond
  cases hentries

/-- The sample with a directory in which nothing can be looked up. -/
def lockedHost : Host :=
  { sampleHost with files := sampleFiles.put [ofText "locked", ofText "app"] { Node.newDirectory ⟨10, 0⟩ with mode := 0 } }

/-- A marker that lies there by a way through the cache directory is missing at first; a second rebuild cannot find out
whether it is there, and fails. -/
theorem rebuild_stops_at_marker :
    let c : Config := { sampleConfig with railsMarker := ofText ".owl_cache/../locked/rails" }
    ∃ l s₁ h₁, rebuild ⟨c, none⟩ lockedHost = ((.ok l, s₁), h₁) ∧ ∃ e s₂ h₂, rebuild ⟨c, none⟩ h₁ = ((.error e, s₂), h₂) := by
  intro c
  have hfirst : (rebuild ⟨c, none⟩ lockedHost).1.1.toOption.isSome = true := by decide +kernel
  have hsecond : (rebuild ⟨c, none⟩ (rebuild ⟨c, none⟩ lockedHost).2).1.1.toOption = none := by decide +kernel
  rcases ha : rebuild ⟨c, none⟩ lockedHost with ⟨⟨e | l, s₁⟩, h₁⟩
  · rw [ha] at hfirst
    cases hfirst
  rw [ha] at hsecond
  rcases hb : rebuild ⟨c, none⟩ h₁ with ⟨⟨e | l₂, s₂⟩, h₂⟩
  · exact ⟨l, s₁, h₁, rfl, e, s₂, h₂, hb⟩
  · rw [hb] at hsecond
    cases hsecond

end Store

end RequirePath
