import RequirePath.Proofs.Cache.Coherence
import RequirePath.Proofs.File.Confined

/-! Where the calls of a cache write. If the cache has single names and no link is on the way to its directory, at it or
below it, all that they make, write, move and remove is in the cache directory. Each writing keeps that, so each call
does, also one that fails, and so do the calls of any number of stores one after another. -/

namespace RequirePath

open FileSystem RequirePath.Action

namespace Cache

variable {c : Config} {p : LexicalPath} {name : Filename} {path : Pathname}

/-- Where the cache directory is secluded, only it changes. -/
def StaysInside (c : Config) (fs fs' : FileSystem) : Prop :=
  fs.Secluded c.projectRoot.location c.cacheDir → Confined c.projectRoot.location c.cacheDir fs fs'

theorem frame_staysInside (c : Config) : Host.Frame (Host.OnFiles (StaysInside c)) :=
  Host.frame_onFiles (fun fs _ => confined_refl fs) fun a b hs => (a hs).trans (b (hs.confined (a hs)))

/-- A path of the cache directory or of something in it. -/
structure InCache (c : Config) (p : LexicalPath) : Prop where
  normal : p.Normal
  below : c.cacheDir :: c.projectRoot.location <:+ p.location

theorem location_cacheDirPath (hc : c.SingleNames) : c.cacheDirPath.location = c.cacheDir :: c.projectRoot.location := by
  rw [hc.cacheDirPath_eq, LexicalPath.location_entry]

theorem inCache_cacheDirPath (hc : c.SingleNames) : InCache c c.cacheDirPath :=
  ⟨hc.normal, location_cacheDirPath hc ▸ List.suffix_refl _⟩

theorem inCache_entry (hc : c.SingleNames) (hn : IsPlainName name) : InCache c (c.cacheDirPath.entry name) := by
  refine ⟨hc.normal.entry hn, ?_⟩
  rw [LexicalPath.location_entry]
  exact (inCache_cacheDirPath hc).below.trans (List.suffix_cons _ _)

theorem inCache_cacheFilePath (hc : c.SingleNames) : InCache c c.cacheFilePath := by
  rw [hc.cacheFilePath_eq]
  exact inCache_entry hc hc.cacheFile

/-! ### Writings -/

theorem makePath_staysInside (hp : InCache c p) : Within (Host.OnFiles (StaysInside c)) (makePath p) := by
  refine within_makePath_of (frame_staysInside c) fun h fs inner hi hfs hs => ?_
  have hnormal : LexicalPath.Normal ⟨p.anchor, inner.reverse⟩ := by
    refine ⟨hp.normal.isAbsolute, fun x hx => hp.normal.plain x ?_⟩
    exact List.mem_reverse.1 (hi.mem (List.mem_reverse.1 hx))
  have hplace : LexicalPath.location ⟨p.anchor, inner.reverse⟩ = inner := List.reverse_reverse inner
  refine makeDirectory_confined hs hnormal ?_ hfs
  rw [hplace]
  rcases List.suffix_or_suffix_of_suffix hp.below hi with hbelow | habove
  · exact Or.inl hbelow
  · rcases List.suffix_cons_iff.1 habove with heq | hroot
    · exact Or.inl (heq ▸ List.suffix_refl _)
    · exact Or.inr hroot

theorem changeFiles_staysInside {f : Host → Except Errno FileSystem}
    (hf : ∀ h fs, h.files.Secluded c.projectRoot.location c.cacheDir → f h = .ok fs →
      Confined c.projectRoot.location c.cacheDir h.files fs) : Within (Host.OnFiles (StaysInside c)) (changeFiles path f) :=
  within_changeFiles (frame_staysInside c) fun h fs hfs hs => hf h fs hs hfs

theorem writePlaceholder_staysInside (hc : c.SingleNames) :
    Within (Host.OnFiles (StaysInside c)) (writePlaceholder c) := by
  have hf := frame_staysInside c
  have hfile := inCache_cacheFilePath hc
  refine within_bind hf (makePath_staysInside (inCache_cacheDirPath hc)) fun _ => ?_
  refine within_bind hf (makePath_staysInside (hc.compilerCachePath_eq ▸ inCache_entry hc hc.compilerCacheDir)) fun _ => ?_
  refine within_bind hf (changeFiles_staysInside fun h fs hs hfs => ?_) fun _ => within_pure hf _
  exact write_confined hs hfile.normal hfile.below hfs

theorem installRecord_staysInside (hc : c.SingleNames) (hp : InCache c p) (l : Loaded) :
    Within (Host.OnFiles (StaysInside c)) (installRecord c l p.spelling) := by
  have hf := frame_staysInside c
  have hfile := inCache_cacheFilePath hc
  unfold installRecord
  cases l.record? with
  | none =>
      refine within_bind hf (within_attempt (changeFiles_staysInside fun h fs hs hfs => ?_)) fun _ => within_fail hf _
      exact removeFile_confined hs hp.normal hp.below hfs
  | some record =>
      refine within_bind hf (changeFiles_staysInside fun h fs hs hfs => ?_) fun _ =>
        changeFiles_staysInside fun h fs hs hfs => ?_
      · exact write_confined hs hp.normal hp.below hfs
      · exact rename_confined hs hp.normal hp.below hfile.normal hfile.below hfs

theorem writeRecord_staysInside (hc : c.SingleNames) (l : Loaded) :
    Within (Host.OnFiles (StaysInside c)) (writeRecord c l) := by
  have hf := frame_staysInside c
  rw [writeRecord_eq]
  refine within_bind hf (makePath_staysInside (inCache_cacheDirPath hc)) fun _ => ?_
  refine within_bind hf (makePath_staysInside (hc.compilerCachePath_eq ▸ inCache_entry hc hc.compilerCacheDir)) fun _ => ?_
  -- the new file is an entry of the cache directory, whatever name is free
  refine within_look_bind fun h => ?_
  obtain ⟨name, hname, hpath⟩ := temporaryPath_eq hc.normal h
  have hp := inCache_entry hc hname
  rw [hpath]
  refine within_bind hf (changeFiles_staysInside fun h fs hs hfs => ?_) fun _ => installRecord_staysInside hc hp l
  exact createPrivate_confined hs hp.normal hp.below hfs

theorem removeTree_staysInside (hp : InCache c p) : Within (Host.OnFiles (StaysInside c)) (removeTree p) := by
  refine within_removeTree_of (frame_staysInside c) (fun h place hplace hs => ?_) fun h fs hfs hs => ?_
  · obtain rfl : place = p.location := hs.location_eq hp.normal hp.below (locate_eq_ok_iff.1 hplace)
    exact emptyDirectory_confined _ hp.below
  · exact removeDirectory_confined hs hp.normal hp.below hfs

/-- The calls of a cache stay inside its directory. -/
theorem covers_staysInside (hc : c.SingleNames) : Covers (Host.OnFiles (StaysInside c)) c where
  frame := frame_staysInside c
  event := fun h _ _ => confined_refl h.files
  placeholder := writePlaceholder_staysInside hc
  record := writeRecord_staysInside hc
  removal := removeTree_staysInside (inCache_cacheDirPath hc)

end Cache

namespace World

open Pathname (ofText)

variable {c : Config} {w w' : World} {q : Location}

/-- One step: a call of some store, which may fail, or another load-path command or time. -/
inductive Call (c : Config) (w : World) : World → Prop
  | load (i : Nat) : Call c w (w.load c i)
  | rebuild (i : Nat) : Call c w (w.rebuild c i)
  | status (i : Nat) : Call c w (w.status c i)
  | clear (i : Nat) : Call c w (w.clear c i)
  | outside (tool : ToolRun) (now : Timestamp) : Call c w { w with host := { w.host with tool, now } }

/-- What a call of a store keeps, a step keeps. -/
theorem Call.covers {F : FileSystem → FileSystem → Prop} (hs : Call c w w') (hw : Cache.Covers (Host.OnFiles F) c)
    (hlog : w.host.LogsToConsole) : w'.host.LogsToConsole ∧ F w.host.files w'.host.files := by
  have hkeep : ∀ {h : Host}, w.host.Continues h ∧ Host.OnFiles F w.host h → h.LogsToConsole ∧ F w.host.files h.files :=
    fun h => ⟨h.1.logsToConsole hlog, h.2⟩
  cases hs with
  | load i => exact hkeep (Cache.Covers.store_load (s := w.store c i) hw hlog)
  | rebuild i => exact hkeep (Cache.Covers.store_rebuild (s := w.store c i) hw hlog)
  | status i => exact hkeep (Cache.Covers.store_status (s := w.store c i) hw hlog)
  | clear i => exact hkeep (Cache.Covers.store_clear (s := w.store c i) hw hlog)
  | outside tool now => exact ⟨hlog, hw.frame.refl w.host⟩

theorem covers_of_calls {F : FileSystem → FileSystem → Prop} (hrun : Relation.ReflTransGen (Call c) w w')
    (hw : Cache.Covers (Host.OnFiles F) c) (hlog : w.host.LogsToConsole) :
    w'.host.LogsToConsole ∧ F w.host.files w'.host.files := by
  induction hrun with
  | refl => exact ⟨hlog, hw.frame.refl w.host⟩
  | tail hrun hs ih =>
      obtain ⟨hlog', hf'⟩ := hs.covers hw ih.1
      exact ⟨hlog', hw.frame.trans ih.2 hf'⟩

/-- However stores have used one cache, everything outside the cache directory is as it was, but for the time of the
project root, if no link was on the way to the cache directory, at it or below it. -/
theorem calls_stay_inside (hc : c.SingleNames) (hrun : Relation.ReflTransGen (Call c) w w') (hlog : w.host.LogsToConsole)
    (hroot : w.host.files.isDirectoryAt c.projectRoot.location = true)
    (hlinks : ∀ q n, q <:+ c.cacheDirPath.location ∨ c.cacheDirPath.location <:+ q →
      w.host.files.node? q = some n → n.isLink = false) (hq : ¬c.cacheDirPath.location <:+ q) :
    (q ≠ c.projectRoot.location → w'.host.files.node? q = w.host.files.node? q) ∧
    (q = c.projectRoot.location → ∃ n t, w.host.files.node? q = some n ∧
      w'.host.files.node? q = some { n with modified := t }) := by
  rw [Cache.location_cacheDirPath hc] at hlinks hq
  have hsecluded : w.host.files.Secluded c.projectRoot.location c.cacheDir :=
    ⟨hroot, fun q hq q' n hq' hn => hlinks q' n (List.suffix_or_suffix_of_suffix hq' hq) hn⟩
  have hconfined := (covers_of_calls hrun (Cache.covers_staysInside hc) hlog).2 hsecluded
  refine ⟨fun hne => hconfined.outside q hq hne, ?_⟩
  rintro rfl
  obtain ⟨n, hn, -⟩ := isDirectoryAt_iff.1 hroot
  obtain ⟨t, hn'⟩ := hconfined.directory n hn
  exact ⟨n, t, hn, hn'⟩

theorem calls_sampleBroken :
    Relation.ReflTransGen (Call Store.sampleConfig) ⟨Store.sampleHost, fun _ => none, []⟩ sampleBroken := by
  have hbuilt : Relation.ReflTransGen (Call Store.sampleConfig) ⟨Store.sampleHost, fun _ => none, []⟩ sampleBuilt :=
    .single (.load 0)
  rw [sampleBroken]
  exact (hbuilt.tail (.outside (.cannotStart .noEntry) sampleBuilt.host.now)).tail (.rebuild 1)

/-- A store builds the cache, the load-path command breaks, another store fails to rebuild and removes the cache: the
lock file is as it was. -/
theorem calls_stay_inside_sample :
    (sampleBroken.clear Store.sampleConfig 1).host.files.node? [ofText "Gemfile.lock", ofText "app"] =
      Store.sampleFiles.node? [ofText "Gemfile.lock", ofText "app"] := by
  have hrun := calls_sampleBroken.tail (.clear 1)
  have hlinkFree : Store.sampleFiles.LinkFree := by decide
  have hlog : Store.sampleHost.LogsToConsole := fun _ hs => absurd hs List.not_mem_nil
  have hroot : Store.sampleFiles.isDirectoryAt Store.sampleConfig.projectRoot.location = true := by decide
  have hq : ¬Store.sampleConfig.cacheDirPath.location <:+ [ofText "Gemfile.lock", ofText "app"] := by decide
  have hne : [ofText "Gemfile.lock", ofText "app"] ≠ Store.sampleConfig.projectRoot.location := by decide
  exact (calls_stay_inside Store.plainCache_sampleConfig.singleNames hrun hlog hroot (fun q n _ hn => hlinkFree q n hn) hq).1 hne

end World

end RequirePath
