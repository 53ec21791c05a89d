import RequirePath.Proofs.Cache.Coherence
import RequirePath.Proofs.Cache.Failure
import RequirePath.Proofs.Cache.Unreadable

/-! What stores take for a corrupt cache. A load that fails can leave the placeholder that it has made, and a later
load that is not to rebuild rejects it. Nothing else that the program writes is rejected. -/

namespace RequirePath.World

open Pathname (ofText)

variable {c : Config} {w : World} {i : Nat}

/-- Which loads find the cache corrupt, in a run that starts without a cache directory: those that read the
placeholder and are not to rebuild. The placeholder is there only after a load that has failed, until a rebuild
succeeds. -/
theorem Reachable.load_corrupt_iff (hc : c.PlainCache) (hw : Reachable c w) :
    ((∃ path reason s h, (w.store c i).load w.host = ((.error (.cacheCorrupt path reason), s), h)) ↔
      w.loaded i = none ∧ c.onCorruptCache = .fail ∧ Cache.IsManifest w.host c.gemfilePath ∧
        Cache.IsManifest w.host c.gemfileLockPath ∧ Cache.Usable c w.host ∧
        ¬Cache.timeAt w.host c.cacheFilePath < Cache.timeAt w.host c.gemfileLockPath ∧
        Cache.fileBytes c w.host = some Record.placeholder) ∧
    (Cache.fileBytes c w.host = some Record.placeholder → LoadFailed c w) := by
  have he := hw.explained hc
  refine ⟨⟨?_, ?_⟩, fun hb => ?_⟩
  · rintro ⟨path, reason, s, h, hload⟩
    cases hi : w.loaded i with
    | some l =>
        unfold store Store.load at hload
        rw [hi] at hload
        cases hload
    | none =>
        unfold store Store.load at hload
        rw [hi] at hload
        obtain ⟨-, ha⟩ := Store.keeping_error hload
        obtain ⟨hg, hl, hu, ht, hread, hpolicy⟩ :=
          (Cache.loadOrRebuild_error_iff he.simple.console rfl).1 (congrArg Prod.fst ha)
        obtain ⟨bytes, hbytes, hrecord⟩ := Cache.readRecord_of_usable hu
        rw [hrecord] at hread
        have hfile := Cache.fileBytes_of_read hc he.simple hbytes
        -- the file holds what a failed load or a rebuild has left, and a written record would be read
        rcases he.bytes bytes hfile with ⟨rfl, -⟩ | ⟨last, before, record, -, -, rfl⟩
        · exact ⟨rfl, hpolicy ⟨path, reason, rfl⟩, hg, hl, hu, ht, hfile⟩
        · rw [Record.decode_encode] at hread
          cases hread
  · rintro ⟨hi, hpolicy, hg, hl, hu, ht, hb⟩
    obtain ⟨bytes, hbytes, hrecord⟩ := Cache.readRecord_of_usable hu
    have heq : bytes = Record.placeholder :=
      Option.some.inj ((Cache.fileBytes_of_read hc he.simple hbytes).symm.trans hb)
    rw [heq, Record.decode_placeholder_eq] at hrecord
    have ha := (Cache.loadOrRebuild_error_iff he.simple.console (c := c) rfl).2
      ⟨hg, hl, hu, ht, congrArg Prod.fst hrecord, fun _ => hpolicy⟩
    rcases hload : Cache.loadOrRebuild c w.host with ⟨r, h⟩
    rw [hload] at ha
    have hanswer : (w.store c i).load w.host =
        ((.error (.cacheCorrupt c.cacheFilePath.display "2 validation errors"), w.store c i), h) := by
      obtain rfl : r = .error (.cacheCorrupt c.cacheFilePath.display "2 validation errors") := ha
      simp [store, Store.load, hi, Store.keeping, hload]
    exact ⟨_, _, _, _, hanswer⟩
  · rcases he.bytes _ hb with ⟨-, hf⟩ | ⟨last, before, record, -, -, heq⟩
    · exact hf
    · exact absurd (heq ▸ Record.decode_encode "" record) (Record.decode_placeholder "" record)

/-- The configuration of the sample, with a cache that is not rebuilt when it is corrupt. -/
def strictConfig : Config := { Store.sampleConfig with onCorruptCache := .fail }

theorem plainCache_strictConfig : strictConfig.PlainCache where
  root := by decide
  cacheDir := by decide
  cacheFile := by decide
  compilerCacheDir := by decide
  distinct := by decide

/-- A world in which a store has failed to load as the load-path command did not start. -/
def sampleFailed : World :=
  load strictConfig ⟨{ Store.sampleHost with tool := .cannotStart .noEntry }, fun _ => none, []⟩ 0

/-- That world after the load-path command was mended. -/
def sampleLeft : World := { sampleFailed with host := { sampleFailed.host with tool := Store.sampleHost.tool } }

theorem reachable_sampleLeft : Reachable strictConfig sampleLeft := by
  have hstart : Reachable strictConfig ⟨{ Store.sampleHost with tool := .cannotStart .noEntry }, fun _ => none, []⟩ :=
    .start _ (fun _ hs => absurd hs List.not_mem_nil) (by decide) (by decide)
  have hfailed : Reachable strictConfig sampleFailed := hstart.step (.load 0)
  rw [sampleLeft]
  exact hfailed.step ((hfailed.coherent plainCache_strictConfig).step_tool Store.sampleHost.tool)

/-- The answer of a load that finds the cache corrupt. -/
def foundCorrupt : Except Failure Loaded → Bool
  | .error (.cacheCorrupt _ _) => true
  | _ => false

theorem load_sampleLeft :
    ∃ path reason s h, (sampleLeft.store strictConfig 0).load sampleLeft.host =
      ((.error (.cacheCorrupt path reason), s), h) := by
  have hcorrupt : foundCorrupt ((sampleLeft.store strictConfig 0).load sampleLeft.host).1.1 = true := by decide +kernel
  rcases hload : (sampleLeft.store strictConfig 0).load sampleLeft.host with ⟨⟨r, s⟩, h⟩
  rw [hload] at hcorrupt
  cases r with
  | ok l => cases hcorrupt
  | error e =>
      cases e with
      | cacheCorrupt path reason => exact ⟨path, reason, s, h, rfl⟩
      | _ => cases hcorrupt

/-- The load finds the placeholder of the load that failed. -/
theorem load_corrupt_sample :
    (∃ path reason s h, (sampleLeft.store strictConfig 0).load sampleLeft.host =
      ((.error (.cacheCorrupt path reason), s), h)) ∧ LoadFailed strictConfig sampleLeft := by
  have hboth := Reachable.load_corrupt_iff (i := 0) plainCache_strictConfig reachable_sampleLeft
  have hconditions := hboth.1.1 load_sampleLeft
  exact ⟨load_sampleLeft, hboth.2 hconditions.2.2.2.2.2.2⟩

/-- A load can find the cache corrupt though no one but the program has written to it. -/
theorem load_rejects_leftover :
    ¬∀ (c : Config) (w : World) (i : Nat) (path reason : String) (s : Store) (h : Host), c.PlainCache → Reachable c w →
      (w.store c i).load w.host ≠ ((.error (.cacheCorrupt path reason), s), h) := by
  intro hall
  obtain ⟨path, reason, s, h, hload⟩ := load_sampleLeft
  exact hall strictConfig sampleLeft 0 path reason s h plainCache_strictConfig reachable_sampleLeft hload

end RequirePath.World
