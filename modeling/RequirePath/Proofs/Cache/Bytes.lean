import RequirePath.Proofs.Cache.Cases
import RequirePath.Proofs.Config
import RequirePath.Proofs.File.LinkFree

/-! The bytes of the cache file from call to call, where no link is in the way. A call leaves them, or the file is
gone, or the file gets the placeholder from a load, or the record of what a rebuild gives. -/

namespace RequirePath.Cache

open FileSystem RequirePath.Action

variable {c : Config} {l : Loaded} {h h' h'' : Host} {e : Failure} {last : Option Record}

/-- The bytes of the cache file. -/
def fileBytes (c : Config) (h : Host) : Option (List UInt8) :=
  h.files.bytesAt c.cacheFilePath.location

/-- No link is in the way, and no log record goes to a file. -/
structure Simple (h : Host) : Prop where
  console : h.LogsToConsole
  linkFree : h.files.LinkFree

variable {fresh : Option (List UInt8)}

/-- The machine is simple, and the cache file is gone or has the bytes that it had or, if there are any, fresh ones. -/
structure Leaves (c : Config) (fresh : Option (List UInt8)) (h h' : Host) : Prop where
  simple : Simple h'
  bytes : ∀ bytes, fileBytes c h' = some bytes → fresh = some bytes ∨ fileBytes c h = some bytes

theorem leaves_refl (hs : Simple h) : Leaves c fresh h h := ⟨hs, fun _ hb => Or.inr hb⟩

theorem Leaves.trans (a : Leaves c fresh h h') (b : Leaves c fresh h' h'') : Leaves c fresh h h'' :=
  ⟨b.simple, fun bytes hb => (b.bytes bytes hb).elim Or.inl (a.bytes bytes)⟩

theorem Leaves.freshly (a : Leaves c none h h') : Leaves c fresh h h' :=
  ⟨a.simple, fun bytes hb => Or.inr ((a.bytes bytes hb).resolve_left nofun)⟩

theorem leaves_of_rests (hs : Simple h) (hr : Rests h h') : Leaves c fresh h h' := by
  refine ⟨⟨hr.continues.logsToConsole hs.console, ?_⟩, fun bytes hb => Or.inr ?_⟩
  · rw [hr.files]
    exact hs.linkFree
  · rwa [fileBytes, hr.files] at hb

theorem leaves_of_shrinks (hs : Simple h) (hr : h.Continues h' ∧ Shrinks h.files h'.files) : Leaves c fresh h h' :=
  ⟨⟨hr.1.logsToConsole hs.console, hr.2.linkFree hs.linkFree⟩, fun _ hb => Or.inr (hr.2.bytesAt hb)⟩

theorem leaves_of_makePath {r : Except Failure Unit} {p : LexicalPath} (hs : Simple h)
    (ha : makePath p h = (r, h')) : Leaves c fresh h h' := by
  refine ⟨⟨?_, makePath_linkFree hs.linkFree ha⟩, fun bytes hb => Or.inr ?_⟩
  · rw [Host.LogsToConsole, (makePath_keeps ha).1]
    exact hs.console
  · obtain ⟨n, hn, hcontent⟩ := bytesAt_eq_some_iff.1 hb
    exact bytesAt_eq_some_iff.2 ⟨n, makePath_files ha hn (Node.isFile_iff.2 ⟨bytes, hcontent⟩), hcontent⟩

/-- The directories that the cache file needs are made before it is written, and leave it. -/
theorem leaves_of_makeDirectories {r₁ r₂ : Except Failure Unit} (hs : Simple h)
    (h₁ : makePath c.cacheDirPath h = (r₁, h')) (h₂ : makePath c.compilerCachePath h' = (r₂, h'')) :
    Leaves c fresh h h'' := by
  have hfirst : Leaves c fresh h h' := leaves_of_makePath hs h₁
  exact hfirst.trans (leaves_of_makePath hfirst.simple h₂)

/-! ### Rebuilds -/

theorem installRecord_linkFree {r : Except Failure Unit} {fs : FileSystem} {d : Location} {name : Filename}
    {path : Pathname} (hl : fs.LinkFree) (hm : Made fs h d name path) (ha : installRecord c l path h = (r, h')) :
    h'.files.LinkFree := by
  cases r with
  | ok u =>
      obtain ⟨record, fs₁, target, -, hf, -, -, hmoves⟩ := installRecord_ok hm ha
      exact hmoves.linkFree (hf.adds.linkFree hl rfl)
  | error e =>
      cases hr : l.record? with
      | none => exact (removeFile_shrinks (installRecord_none hm hr ha).1).linkFree (hm.adds.linkFree hl rfl)
      | some record =>
          obtain ⟨fs₁, hf, hmove⟩ := installRecord_some hm hr ha
          rw [changeFiles_error hmove]
          exact hf.adds.linkFree hl rfl

/-- A record that is not written leaves the cache file; afterwards it has the bytes of the record. -/
theorem writeRecord_bytes (hc : c.PlainCache) (hs : Simple h) {r : Except Failure Unit}
    (ha : writeRecord c l h = (r, h')) :
    (∃ e, r = .error e) ∧ Leaves c fresh h h' ∨
      r = .ok () ∧ Simple h' ∧ ∃ record, l.record? = some record ∧ fileBytes c h' = some record.encode := by
  have hcons := (writeRecord_continues hs.console ha).logsToConsole hs.console
  obtain ⟨r₁, s₁, h₁, ⟨rfl, he⟩ | ⟨r₂, s₂, h₂, ⟨rfl, he⟩ | ⟨fs₁, d, name, -, hv, hmade, hi⟩⟩⟩ := writeRecord_cases ha
  · exact Or.inl ⟨he, leaves_of_makePath hs h₁⟩
  · exact Or.inl ⟨he, leaves_of_makeDirectories hs h₁ h₂⟩
  have hbefore : Leaves c fresh h s₂ := leaves_of_makeDirectories hs h₁ h₂
  have hlinks := installRecord_linkFree hbefore.simple.linkFree hmade hi
  cases r with
  | error e =>
      -- the temporary file has another name in the same directory, so the entry of the cache file is kept
      obtain ⟨x, hx, hpath⟩ := temporaryPath_eq hc.normal s₂
      rw [hpath] at hv
      obtain ⟨rfl, hd, -⟩ := resolve_entry_vacant hc.normal hx hv
      obtain ⟨-, hnode⟩ := installRecord_error hc.normal hc.cacheFile hc.cacheFilePath_eq hpath hmade hi
      refine Or.inl ⟨⟨e, rfl⟩, hbefore.trans ⟨⟨hcons, hlinks⟩, fun bytes hb => Or.inr ?_⟩⟩
      rw [fileBytes, hc.cacheFilePath_eq, LexicalPath.location_entry,
        ← hd.eq_location hbefore.simple.linkFree hc.normal] at hb ⊢
      unfold bytesAt at hb ⊢
      rwa [hnode] at hb
  | ok u =>
      obtain ⟨record, fs₂, target, hr, hfill, htarget, -, hmoves⟩ := installRecord_ok hmade hi
      have hplace := location_of_resolve (hfill.adds.linkFree hbefore.simple.linkFree rfl) hc.normal_cacheFilePath htarget
      rw [hplace] at hmoves
      exact Or.inr ⟨rfl, ⟨hcons, hlinks⟩, record, hr, bytesAt_eq_some_iff.2 ⟨_, hmoves.node?_place, rfl⟩⟩

/-- What a rebuild that succeeds leaves: the cache file with the record of its answer. -/
structure Rebuilt (c : Config) (l : Loaded) (h : Host) : Prop where
  rebuilt : l.rebuilt = true
  simple : Simple h
  bytes : ∃ record, l.record? = some record ∧ fileBytes c h = some record.encode

/-- A failed rebuild leaves the cache file; after another one it has the record of the answer. -/
theorem rebuild_bytes (hc : c.PlainCache) (hs : Simple h) {r : Except Failure Loaded} (ha : rebuild c h = (r, h')) :
    (∃ e, r = .error e) ∧ Leaves c fresh h h' ∨ ∃ l, r = .ok l ∧ Rebuilt c l h' := by
  rcases rebuild_cases hs.console ha with ⟨hr, he⟩ | ⟨l, s₁, r₂, s₂, hr, hl, hw, hend⟩
  · exact Or.inl ⟨he, leaves_of_rests hs hr⟩
  have hbefore : Leaves c fresh h s₁ := leaves_of_rests hs hr
  have hwritten : (∃ e, r₂ = .error e) ∧ Leaves c fresh s₁ s₂ ∨ r₂ = .ok () ∧ Simple s₂ ∧ _ :=
    writeRecord_bytes hc hbefore.simple hw
  rcases hwritten, hend with
    ⟨⟨⟨e, he⟩, hleaves⟩ | ⟨he, hsimple, hbytes⟩, ⟨e', he', hr', rfl⟩ | ⟨he', hr', hlast⟩⟩
  · exact Or.inl ⟨⟨e', hr'⟩, hbefore.trans hleaves⟩
  · rw [he] at he'
    cases he'
  · rw [he] at he'
    cases he'
  · refine Or.inr ⟨l, hr', hl, (leaves_of_rests hsimple hlast : Leaves c none s₂ h').simple, ?_⟩
    rw [fileBytes, hlast.files]
    exact hbytes

/-! ### Loads -/

/-- The check of the cache file leaves it, or makes the placeholder. -/
theorem leaves_of_ensureCacheFile (hc : c.PlainCache) (hs : Simple h) {r : Except Failure Bool}
    (ha : ensureCacheFile c h = (r, h')) : Leaves c (some Record.placeholder) h h' := by
  have hcons := (ensureCacheFile_continues ha).logsToConsole hs.console
  rcases ensureCacheFile_cases ha with ⟨rfl, -⟩ | ⟨rfl, -⟩ | ⟨-, hp⟩
  · exact leaves_refl hs
  · exact leaves_refl hs
  · obtain ⟨r₁, s₁, h₁, ⟨rfl, -⟩ | ⟨r₂, s₂, h₂, ⟨rfl, -⟩ | ⟨fs, -, hw, rfl, -⟩⟩⟩ := writePlaceholder_cases hp
    · exact leaves_of_makePath hs h₁
    · exact leaves_of_makeDirectories hs h₁ h₂
    · have hbefore : Leaves c (some Record.placeholder) h s₂ := leaves_of_makeDirectories hs h₁ h₂
      obtain ⟨hl, hb⟩ := write_linkFree hbefore.simple.linkFree hc.normal_cacheFilePath hw
      exact ⟨⟨hcons, hl⟩, fun bytes hbytes => Or.inl (hb.symm.trans hbytes)⟩

/-- What is read from the cache file is its bytes. -/
theorem fileBytes_of_read (hc : c.PlainCache) (hs : Simple h) {bytes : List UInt8}
    (hr : h.files.read h.workingDirectory c.cacheFilePath.spelling = .ok bytes) : fileBytes c h = some bytes := by
  obtain ⟨n, hstatus, -, hcontent⟩ := read_eq_ok_iff.1 hr
  obtain ⟨q, hq, hn⟩ := status_eq_ok_iff.1 hstatus
  refine bytesAt_eq_some_iff.2 ⟨n, ?_, hcontent⟩
  rwa [← location_of_resolve hs.linkFree hc.normal_cacheFilePath hq]

/-- A load fails and leaves the cache file or a placeholder, or gives what the cache file holds and leaves it, or
gives the answer of a rebuild. -/
theorem loadOrRebuild_bytes (hc : c.PlainCache) (hs : Simple h) {r : Except Failure Loaded}
    (ha : loadOrRebuild c h = (r, h')) :
    (∃ e, r = .error e) ∧ Leaves c (some Record.placeholder) h h' ∨
    (∃ record, Holds c h record ∧ r = .ok (Loaded.ofRecord record)) ∧ Leaves c none h h' ∨
    ∃ l, r = .ok l ∧ Rebuilt c l h' := by
  rcases loadOrRebuild_cases hs.console ha with ⟨hr, he⟩ | ⟨-, -, ⟨e, hensure, he⟩ | ⟨usable, s₁, hensure, hgo⟩⟩
  · exact Or.inl ⟨he, leaves_of_rests hs hr⟩
  · exact Or.inl ⟨⟨e, he⟩, leaves_of_ensureCacheFile hc hs hensure⟩
  have hbefore := leaves_of_ensureCacheFile hc hs hensure
  rcases proceed_cases hbefore.simple.console hgo with ⟨hr, he⟩ | ⟨rfl, hr, -, record, hholds, he⟩ | ⟨s₂, hpause, hreb⟩
  · exact Or.inl ⟨he, hbefore.trans (leaves_of_rests hbefore.simple hr)⟩
  · obtain ⟨rfl, -⟩ := ensureCacheFile_true hensure
    exact Or.inr (Or.inl ⟨⟨record, hholds, he⟩, leaves_of_rests hs hr⟩)
  · have hbefore' := hbefore.trans (leaves_of_rests hbefore.simple hpause.toRests)
    rcases rebuild_bytes hc hbefore'.simple hreb with ⟨he, hleaves⟩ | hdone
    · exact Or.inl ⟨he, hbefore'.trans hleaves⟩
    · exact Or.inr (Or.inr hdone)

end RequirePath.Cache
