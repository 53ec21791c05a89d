import Mathlib.Logic.Relation
import RequirePath.Proofs.Cache.Bytes
import RequirePath.Proofs.Cache.Calls
import RequirePath.Proofs.Cache.Reload

/-! Stores over one cache. Many stores load, rebuild, describe and clear one cache in any order, some of it in
vain, while the world outside the cache directory changes as it likes. What the cache file tells, if it tells
anything, is the answer of the last rebuild that succeeded: each call keeps that, and a run is its calls. -/

namespace RequirePath

open FileSystem RequirePath.Action

namespace Cache

variable {c : Config} {l : Loaded} {h h' : Host} {e : Failure} {last : Option Record}

/-- If the cache file tells a record, it is the given one. No link and no log file is in the way. -/
structure Tells (c : Config) (h : Host) (last : Option Record) : Prop where
  console : h.LogsToConsole
  linkFree : h.files.LinkFree
  record : ∀ bytes, h.files.bytesAt c.cacheFilePath.location = some bytes →
    ∀ shown r, Record.decode shown bytes = .ok r → last = some r

/-- The cache file tells the same, or nothing, as long as its bytes are the same or the placeholder. -/
theorem Tells.leaves (ht : Tells c h last) (hl : Leaves c (some Record.placeholder) h h') : Tells c h' last := by
  refine ⟨hl.simple.console, hl.simple.linkFree, fun bytes hbytes shown r hr => ?_⟩
  rcases hl.bytes bytes hbytes with heq | hold
  · rw [← Option.some.inj heq] at hr
    exact absurd hr (Record.decode_placeholder shown r)
  · exact ht.record bytes hold shown r hr

/-- After a rebuild the cache file tells the answer. -/
theorem Rebuilt.tells (hr : Rebuilt c l h) : Tells c h l.record? := by
  obtain ⟨record, hrecord, hb⟩ := hr.bytes
  refine ⟨hr.simple.console, hr.simple.linkFree, fun bytes hbytes shown r hdecode => ?_⟩
  have heq : record.encode = bytes := Option.some.inj (hb.symm.trans hbytes)
  rw [← heq, Record.decode_encode, Except.ok.injEq] at hdecode
  rw [hrecord, hdecode]

/-- What a load reads from the cache file is what the cache file tells. -/
theorem Tells.eq_of_holds (hc : c.PlainCache) (ht : Tells c h last) {record : Record} (hh : Holds c h record) :
    last = some record := by
  obtain ⟨-, bytes, hread, hdecode⟩ := hh
  exact ht.record bytes (fileBytes_of_read hc ⟨ht.console, ht.linkFree⟩ hread) _ _ hdecode

/-- A load fails and leaves what the cache file tells, or gives that, or gives the answer of a rebuild, which the
cache file tells afterwards. -/
theorem Tells.loadOrRebuild (hc : c.PlainCache) (ht : Tells c h last) {r : Except Failure Loaded}
    (ha : loadOrRebuild c h = (r, h')) :
    (∃ e, r = .error e) ∧ Tells c h' last ∨
    (∃ record, last = some record ∧ r = .ok (Loaded.ofRecord record)) ∧ Tells c h' last ∨
    ∃ l, r = .ok l ∧ l.rebuilt = true ∧ Tells c h' l.record? := by
  rcases loadOrRebuild_bytes hc ⟨ht.console, ht.linkFree⟩ ha with
    ⟨he, hl⟩ | ⟨⟨record, hholds, hr⟩, hl⟩ | ⟨l, hr, hrebuilt⟩
  · exact Or.inl ⟨he, ht.leaves hl⟩
  · exact Or.inr (Or.inl ⟨⟨record, ht.eq_of_holds hc hholds, hr⟩, ht.leaves hl.freshly⟩)
  · exact Or.inr (Or.inr ⟨l, hr, hrebuilt.rebuilt, hrebuilt.tells⟩)

/-- The removal of the cache directory leaves nothing new, also if it ends halfway. -/
theorem clear_shrinks (c : Config) : Within (Host.OnFiles Shrinks) (clear c) :=
  within_clear (Host.frame_onFiles shrinks_refl Shrinks.trans) (within_removeTree _)

end Cache

/-- Stores over one cache and the machine they run on, with the answers of the rebuilds that have succeeded, the
last one first. -/
structure World where
  host : Host
  loaded : Nat → Option Loaded
  rebuilds : List Loaded

namespace World

open Pathname (ofText)

variable {c : Config} {l : Loaded} {h : Host} {s : Store} {w w' : World} {i : Nat}

/-- One of the stores. -/
def store (c : Config) (w : World) (i : Nat) : Store := ⟨c, w.loaded i⟩

/-- What a store keeps in memory is replaced. -/
def keep (w : World) (i : Nat) (s : Store) : Nat → Option Loaded :=
  fun j => if j = i then s.loaded else w.loaded j

/-- A store loads the cache. A store that was not loaded and says that it has found the load paths anew has
rebuilt the cache. -/
def load (c : Config) (w : World) (i : Nat) : World :=
  let ((r, s), h) := (w.store c i).load w.host
  let rebuilt :=
    match w.loaded i, r with
    | none, .ok l => if l.rebuilt then [l] else []
    | _, _ => []
  ⟨h, w.keep i s, rebuilt ++ w.rebuilds⟩

/-- A store rebuilds the cache. -/
def rebuild (c : Config) (w : World) (i : Nat) : World :=
  let ((r, s), h) := (w.store c i).rebuild w.host
  let rebuilt :=
    match r with
    | .ok l => [l]
    | .error _ => []
  ⟨h, w.keep i s, rebuilt ++ w.rebuilds⟩

/-- A store describes the cache file. -/
def status (c : Config) (w : World) (i : Nat) : World :=
  { w with host := ((w.store c i).status w.host).2 }

/-- A store removes the cache directory. -/
def clear (c : Config) (w : World) (i : Nat) : World :=
  let ((_, s), h) := (w.store c i).clear w.host
  { w with host := h, loaded := w.keep i s }

/-- One step: a call of some store, which may fail, or any change of the machine that leaves what lies in the
cache directory and brings in no link and no log file. -/
inductive Step (c : Config) (w : World) : World → Prop
  | load (i : Nat) : Step c w (w.load c i)
  | rebuild (i : Nat) : Step c w (w.rebuild c i)
  | status (i : Nat) : Step c w (w.status c i)
  | clear (i : Nat) : Step c w (w.clear c i)
  | outside (h : Host) (hc : h.LogsToConsole) (hl : h.files.LinkFree)
      (hcache : ∀ q, c.cacheDirPath.location <:+ q → q ≠ c.cacheDirPath.location →
        h.files.node? q = w.host.files.node? q) : Step c w { w with host := h }

/-- The worlds of all runs that start without a cache directory. -/
inductive Reachable (c : Config) : World → Prop
  | start (h : Host) (hc : h.LogsToConsole) (hl : h.files.LinkFree)
      (hcache : h.files.node? c.cacheDirPath.location = none) : Reachable c ⟨h, fun _ => none, []⟩
  | step {w w' : World} (hw : Reachable c w) (hs : Step c w w') : Reachable c w'

/-- The cache file tells the answer of the last rebuild, if it tells anything. -/
def Coherent (c : Config) (w : World) : Prop := Cache.Tells c w.host (w.rebuilds.head?.bind Loaded.record?)

/-! ### Where the bytes of the cache file come from -/

theorem load_of_loaded (hi : w.loaded i = some l) : (w.load c i).host = w.host ∧ (w.load c i).rebuilds = w.rebuilds := by
  simp [World.load, store, Store.load, hi]

theorem load_of_error {e : Failure} (hi : w.loaded i = none) (hr : Cache.loadOrRebuild c w.host = (.error e, h)) :
    (w.load c i).host = h ∧ (w.load c i).rebuilds = w.rebuilds := by
  simp [World.load, store, Store.load, hi, Store.keeping, hr]

theorem load_of_ok (hi : w.loaded i = none) (hr : Cache.loadOrRebuild c w.host = (.ok l, h)) :
    (w.load c i).host = h ∧ (w.load c i).rebuilds = if l.rebuilt then l :: w.rebuilds else w.rebuilds := by
  cases hl : l.rebuilt <;> simp [World.load, store, Store.load, hi, Store.keeping, hr, hl]

/-- Some load has failed, and no rebuild has succeeded since. -/
def LoadFailed (c : Config) (w : World) : Prop :=
  ∃ v j e s h, Reachable c v ∧ (v.store c j).load v.host = ((.error e, s), h) ∧
    Relation.ReflTransGen (Step c) (v.load c j) w ∧ w.rebuilds = v.rebuilds

theorem loadFailed_load {e : Failure} (hw : Reachable c w) (hi : w.loaded i = none)
    (hr : Cache.loadOrRebuild c w.host = (.error e, h)) : LoadFailed c (w.load c i) := by
  refine ⟨w, i, e, w.store c i, h, hw, ?_, .refl, (load_of_error hi hr).2⟩
  simp [store, Store.load, hi, Store.keeping, hr]

theorem LoadFailed.step (hf : LoadFailed c w) (hs : Step c w w') (hr : w'.rebuilds = w.rebuilds) :
    LoadFailed c w' := by
  obtain ⟨v, j, e, s, h, hv, hload, hrun, heq⟩ := hf
  exact ⟨v, j, e, s, h, hv, hload, hrun.tail hs, hr.trans heq⟩

/-- The cache file has the bytes of the placeholder, from a load that has failed, or of the record of the last
rebuild. -/
structure Explained (c : Config) (w : World) : Prop where
  simple : Cache.Simple w.host
  bytes : ∀ bytes, Cache.fileBytes c w.host = some bytes →
    bytes = Record.placeholder ∧ LoadFailed c w ∨
      ∃ last before record, w.rebuilds = last :: before ∧ last.record? = some record ∧ bytes = record.encode

theorem explained_start (hc : c.PlainCache) (hlog : h.LogsToConsole) (hl : h.files.LinkFree)
    (hv : h.files.node? c.cacheDirPath.location = none) : Explained c ⟨h, fun _ => none, []⟩ := by
  refine ⟨⟨hlog, hl⟩, fun bytes hb => ?_⟩
  rw [Cache.fileBytes, hc.cacheFilePath_eq, LexicalPath.location_entry, bytesAt,
    node?_child_eq_none (isDirectoryAt_eq_false hv)] at hb
  cases hb

theorem Explained.leaves (he : Explained c w) (hs : Step c w w') (hr : w'.rebuilds = w.rebuilds)
    (hl : Cache.Leaves c none w.host w'.host) : Explained c w' := by
  refine ⟨hl.simple, fun bytes hb => ?_⟩
  rcases he.bytes bytes ((hl.bytes bytes hb).resolve_left nofun) with ⟨heq, hf⟩ | hlast
  · exact Or.inl ⟨heq, hf.step hs hr⟩
  · rw [hr]
    exact Or.inr hlast

theorem explained_of_rebuilt {before : List Loaded} (hr : Cache.Rebuilt c l w.host) (hlast : w.rebuilds = l :: before) :
    Explained c w := by
  obtain ⟨record, hrecord, hb⟩ := hr.bytes
  exact ⟨hr.simple, fun bytes hbytes => Or.inr ⟨l, before, record, hlast, hrecord, Option.some.inj (hbytes.symm.trans hb)⟩⟩

theorem Explained.load (hc : c.PlainCache) (hw : Reachable c w) (he : Explained c w) (i : Nat) :
    Explained c (w.load c i) := by
  cases hi : w.loaded i with
  | some l =>
      obtain ⟨hhost, hrebuilds⟩ := load_of_loaded (c := c) hi
      refine he.leaves (.load i) hrebuilds ?_
      rw [hhost]
      exact Cache.leaves_refl he.simple
  | none =>
      rcases hr : Cache.loadOrRebuild c w.host with ⟨r, h⟩
      rcases Cache.loadOrRebuild_bytes hc he.simple hr with ⟨⟨e, rfl⟩, hl⟩ | ⟨⟨record, -, rfl⟩, hl⟩ | ⟨l, rfl, hl⟩
      · obtain ⟨hhost, hrebuilds⟩ := load_of_error hi hr
        refine ⟨hhost ▸ hl.simple, fun bytes hb => ?_⟩
        rw [hhost] at hb
        rcases hl.bytes bytes hb with heq | hold
        · exact Or.inl ⟨(Option.some.inj heq).symm, loadFailed_load hw hi hr⟩
        · rcases he.bytes bytes hold with ⟨heq, hf⟩ | hlast
          · exact Or.inl ⟨heq, hf.step (.load i) hrebuilds⟩
          · rw [hrebuilds]
            exact Or.inr hlast
      · obtain ⟨hhost, hrebuilds⟩ := load_of_ok hi hr
        exact he.leaves (.load i) hrebuilds (hhost ▸ hl)
      · obtain ⟨hhost, hrebuilds⟩ := load_of_ok hi hr
        rw [hl.rebuilt, if_pos rfl] at hrebuilds
        exact explained_of_rebuilt (hhost ▸ hl) hrebuilds

theorem Explained.rebuild (hc : c.PlainCache) (he : Explained c w) (i : Nat) : Explained c (w.rebuild c i) := by
  rcases hr : Cache.rebuild c w.host with ⟨r, h⟩
  rcases Cache.rebuild_bytes hc he.simple hr with ⟨⟨e, rfl⟩, hl⟩ | ⟨l, rfl, hl⟩
  · have hworld : (w.rebuild c i).host = h ∧ (w.rebuild c i).rebuilds = w.rebuilds := by
      simp [World.rebuild, store, Store.rebuild, Store.keeping, hr]
    exact he.leaves (.rebuild i) hworld.2 (hworld.1 ▸ hl)
  · have hworld : (w.rebuild c i).host = h ∧ (w.rebuild c i).rebuilds = l :: w.rebuilds := by
      simp [World.rebuild, store, Store.rebuild, Store.keeping, hr]
    exact explained_of_rebuilt (hworld.1 ▸ hl) hworld.2

/-- Every step explains the bytes of the cache file. -/
theorem Explained.step (hc : c.PlainCache) (hw : Reachable c w) (he : Explained c w) (hs : Step c w w') :
    Explained c w' := by
  cases hs with
  | load i => exact he.load hc hw i
  | rebuild i => exact he.rebuild hc i
  | status i =>
      have hrest := Cache.rests_of_within (Cache.within_status Cache.frame_rests c) he.simple.console rfl
      exact he.leaves (.status i) rfl (Cache.leaves_of_rests he.simple hrest)
  | clear i =>
      exact he.leaves (.clear i) rfl (Cache.leaves_of_shrinks he.simple (Cache.clear_shrinks c w.host he.simple.console))
  | outside h hlog hl hcache =>
      refine he.leaves (.outside h hlog hl hcache) rfl ⟨⟨hlog, hl⟩, fun bytes hb => Or.inr ?_⟩
      rw [Cache.fileBytes, hc.cacheFilePath_eq, LexicalPath.location_entry] at hb ⊢
      unfold bytesAt at hb ⊢
      rwa [hcache _ (List.suffix_cons _ _) (List.cons_ne_self _ _)] at hb

theorem Reachable.explained (hc : c.PlainCache) (hw : Reachable c w) : Explained c w := by
  induction hw with
  | start h hlog hl hv => exact explained_start hc hlog hl hv
  | step hw hs ih => exact ih.step hc hw hs

theorem Reachable.coherent (hc : c.PlainCache) (hw : Reachable c w) : Coherent c w := by
  have he := hw.explained hc
  refine ⟨he.simple.console, he.simple.linkFree, fun bytes hb shown r hr => ?_⟩
  rcases he.bytes bytes hb with ⟨rfl, -⟩ | ⟨last, before, record, hlast, hrecord, rfl⟩
  · exact absurd hr (Record.decode_placeholder shown r)
  · rw [Record.decode_encode, Except.ok.injEq] at hr
    rw [hlast, List.head?_cons, Option.bind_some, hrecord, hr]

/-- The load-path command may change at any time. -/
theorem Coherent.step_tool (hw : Coherent c w) (tool : ToolRun) :
    Step c w { w with host := { w.host with tool := tool } } :=
  .outside _ hw.console hw.linkFree fun _ _ _ => rfl

/-- However stores have used one cache, a store that is loaded from the cache file gets the load paths and the
files of the last rebuild that succeeded, and there was one. -/
theorem Reachable.load_eq_last_rebuild (hc : c.PlainCache) (hw : Reachable c w) (hi : w.loaded i = none)
    (hload : (w.store c i).load w.host = ((.ok l, s), h)) (hl : l.rebuilt = false) :
    ∃ last before, w.rebuilds = last :: before ∧ l.loadPaths = last.loadPaths ∧ l.entries = last.entries := by
  have hr : Cache.loadOrRebuild c w.host = (.ok l, h) := by
    unfold store Store.load at hload
    rw [hi] at hload
    exact Store.keeping_ok hload
  rcases (hw.coherent hc).loadOrRebuild hc hr with ⟨⟨e, he⟩, -⟩ | ⟨⟨record, hlast, hrecord⟩, -⟩ | ⟨l', hl', ht, -⟩
  · cases he
  · obtain rfl := Except.ok.inj hrecord
    obtain ⟨last, hhead, hrec⟩ := Option.bind_eq_some_iff.1 hlast
    obtain ⟨before, hbefore⟩ := List.head?_eq_some_iff.1 hhead
    rw [Loaded.ofRecord_of_record? hrec]
    exact ⟨last, before, hbefore, rfl, rfl⟩
  · obtain rfl := Except.ok.inj hl'
    rw [hl] at ht
    cases ht

/-- A world in which a store has built the cache. -/
def sampleBuilt : World := World.load Store.sampleConfig ⟨Store.sampleHost, fun _ => none, []⟩ 0

/-- That world after the load-path command broke and another store failed to rebuild. -/
def sampleBroken : World :=
  World.rebuild Store.sampleConfig { sampleBuilt with host := { sampleBuilt.host with tool := .cannotStart .noEntry } } 1

theorem reachable_sampleBroken : Reachable Store.sampleConfig sampleBroken := by
  have hstart : Reachable Store.sampleConfig ⟨Store.sampleHost, fun _ => none, []⟩ :=
    .start _ (fun _ hs => absurd hs List.not_mem_nil) (by decide) (by decide)
  have hbuilt : Reachable Store.sampleConfig sampleBuilt := hstart.step (.load 0)
  have hbroken := hbuilt.step ((hbuilt.coherent Store.plainCache_sampleConfig).step_tool (.cannotStart .noEntry))
  rw [sampleBroken]
  exact hbroken.step (.rebuild 1)

/-- A third store still gets what the first one found. -/
theorem load_eq_last_rebuild_sample :
    ∃ s h, (sampleBroken.store Store.sampleConfig 2).load sampleBroken.host =
        ((.ok ⟨[ofText "/lib"], [ofText "/lib/x.rb"], false⟩, s), h) ∧
      ∃ last before, sampleBroken.rebuilds = last :: before ∧
        [ofText "/lib"] = last.loadPaths ∧ [ofText "/lib/x.rb"] = last.entries := by
  have hunloaded : sampleBroken.loaded 2 = none := by decide +kernel
  have hanswer : ((sampleBroken.store Store.sampleConfig 2).load sampleBroken.host).1.1.toOption =
      some ⟨[ofText "/lib"], [ofText "/lib/x.rb"], false⟩ := by decide +kernel
  rcases hload : (sampleBroken.store Store.sampleConfig 2).load sampleBroken.host with ⟨⟨e | l, s⟩, h⟩
  · rw [hload] at hanswer
    cases hanswer
  · rw [hload] at hanswer
    obtain rfl : l = ⟨[ofText "/lib"], [ofText "/lib/x.rb"], false⟩ := Option.some.inj hanswer
    exact ⟨s, h, rfl, reachable_sampleBroken.load_eq_last_rebuild Store.plainCache_sampleConfig hunloaded hload rfl⟩

end World

end RequirePath
