import RequirePath.Proofs.Cache.Cases

/-! What whole calls keep. A load and a rebuild change files where they write a placeholder and where they write a
record, and a clearing where it removes the cache directory; all else is questions, log records and runs of the load-path
command. A relation that those keep is kept by every call, also by one that fails halfway. -/

namespace RequirePath.Cache

open RequirePath.Action

variable {R : Host → Host → Prop} {c : Config}

/-- The events and the changes of files that the calls of a cache make are in a relation. -/
structure Covers (R : Host → Host → Prop) (c : Config) : Prop where
  frame : Host.Frame R
  event : ∀ h e, R h (h.note e)
  placeholder : Within R (writePlaceholder c)
  record : ∀ l, Within R (writeRecord c l)
  removal : Within R (removeTree c.cacheDirPath)

theorem within_ensureCacheFile (hf : Host.Frame R) (hw : Within R (writePlaceholder c)) :
    Within R (ensureCacheFile c) := by
  refine within_bind hf (within_probe hf _ _) fun there => ?_
  cases there with
  | false => exact hw
  | true =>
      refine within_bind hf (within_look hf _) fun usable => ?_
      exact within_ite (within_pure hf true) hw

theorem within_status (hf : Host.Frame R) (c : Config) : Within R (status c) := by
  refine within_bind hf (within_probe hf _ _) fun isThere => ?_
  refine within_bind hf (within_lookOrFail hf _) fun cacheTime => ?_
  refine within_bind hf (within_lookOrFail hf _) fun lockTime => ?_
  refine within_bind hf (within_lookOrFail hf _) fun gemfileTime => ?_
  refine within_ite (within_pure hf _) (within_bind hf (within_attempt (within_lookOrFail hf _)) fun r => ?_)
  cases r with
  | ok record => exact within_pure hf _
  | error e =>
      cases e with
      | cacheCorrupt path reason => exact within_bind hf (within_log hf _ _ _) fun _ => within_pure hf _
      | _ => exact within_fail hf _

theorem within_clear (hf : Host.Frame R) (hr : Within R (removeTree c.cacheDirPath)) : Within R (clear c) := by
  refine within_bind hf (within_probe hf _ _) fun isThere => ?_
  refine within_ite (within_pure hf _) (within_bind hf hr fun _ => ?_)
  exact within_bind hf (within_log hf _ _ _) fun _ => within_pure hf _

namespace Covers

theorem rebuild (hw : Covers R c) : Within R (rebuild c) := by
  have hf := hw.frame
  refine within_bind hf (within_enumerate hf hw.event c) fun loadPaths => ?_
  refine within_bind hf (within_indexLoadPaths hf _ _ _) fun entries => ?_
  refine within_bind hf (hw.record _) fun _ => ?_
  exact within_bind hf (within_log hf _ _ _) fun _ => within_pure hf _

theorem rebuildFor (hw : Covers R c) (reason : String) : Within R (rebuildFor c reason) :=
  within_bind hw.frame (within_log hw.frame _ _ _) fun _ => hw.rebuild

theorem readOrRebuild (hw : Covers R c) : Within R (readOrRebuild c) := by
  have hf := hw.frame
  refine within_bind hf (within_attempt (within_lookOrFail hf _)) fun r => ?_
  cases r with
  | ok record => exact within_bind hf (within_log hf _ _ _) fun _ => within_pure hf _
  | error e =>
      cases e with
      | cacheCorrupt path reason =>
          exact within_ite (within_fail hf _) (within_bind hf (within_log hf _ _ _) fun _ => hw.rebuild)
      | _ => exact within_fail hf _

theorem proceed (hw : Covers R c) (usable : Bool) : Within R (proceed c usable) := by
  have hf := hw.frame
  refine within_bind hf (within_warnIfLockStale hf c) fun _ => ?_
  refine within_bind hf (within_timeOf hf _) fun lockTime => within_bind hf (within_timeOf hf _) fun cacheTime => ?_
  exact within_ite (hw.rebuildFor _) (within_ite (hw.rebuildFor _) hw.readOrRebuild)

theorem loadOrRebuild (hw : Covers R c) : Within R (loadOrRebuild c) := by
  have hf := hw.frame
  rw [loadOrRebuild_eq]
  refine within_bind hf (within_checkManifest hf c) fun _ => ?_
  exact within_bind hf (within_ensureCacheFile hf hw.placeholder) fun usable => hw.proceed usable

theorem clear (hw : Covers R c) : Within R (clear c) :=
  within_clear hw.frame hw.removal

/-- The calls of a cache change files and events only. -/
theorem anyFiles (c : Config) : Covers (Host.OnFiles fun _ _ => True) c := by
  have hf : Host.Frame (Host.OnFiles fun _ _ => True) := Host.frame_onFiles (fun _ => trivial) fun _ _ => trivial
  have hany : ∀ h fs, Host.OnFiles (fun _ _ => True) h { h with files := fs } := fun _ _ => trivial
  have hpath := within_makePath_of_files hany
  refine ⟨hf, fun _ _ => trivial, ?_, within_writeRecord hf hany c, within_removeTree_of hf (fun _ _ _ => trivial) fun _ _ _ => trivial⟩
  refine within_bind hf (hpath _) fun _ => within_bind hf (hpath _) fun _ => ?_
  exact within_bind hf (within_changeFiles hf fun h fs _ => hany h fs) fun _ => within_pure hf _

/-! ### Calls of a store -/

section

variable {s : Store} {h : Host}

theorem keeping {act : Action Loaded} (ha : Within R act) (hc : h.LogsToConsole) :
    h.Continues (s.keeping act h).2 ∧ R h (s.keeping act h).2 := by
  unfold Store.keeping
  rcases hact : act h with ⟨e | l, h'⟩
  · exact ha.of_eq hc hact
  · exact ha.of_eq hc hact

theorem store_load (hw : Covers R s.config) (hc : h.LogsToConsole) : h.Continues (s.load h).2 ∧ R h (s.load h).2 := by
  unfold Store.load
  cases s.loaded with
  | some l => exact ⟨rfl, hw.frame.refl h⟩
  | none => exact keeping hw.loadOrRebuild hc

theorem store_rebuild (hw : Covers R s.config) (hc : h.LogsToConsole) :
    h.Continues (s.rebuild h).2 ∧ R h (s.rebuild h).2 :=
  keeping hw.rebuild hc

theorem store_status (hw : Covers R s.config) (hc : h.LogsToConsole) : h.Continues (s.status h).2 ∧ R h (s.status h).2 :=
  within_status hw.frame s.config h hc

theorem store_clear (hw : Covers R s.config) (hc : h.LogsToConsole) : h.Continues (s.clear h).2 ∧ R h (s.clear h).2 :=
  hw.clear h hc

end

end Covers

end RequirePath.Cache
