import RequirePath.Proofs.Cache.Cases

/-! What the parts of a load and of a rebuild fail with. Their questions and changes of files, and the load-path command,
fail for causes of the machine and for no others. Causes of their own have the check of the manifest and the reading of
the record only. -/

namespace RequirePath

open RequirePath.Action

namespace Cache

variable {c : Config} {P : Failure → Prop}

/-- What the machine can cause where a cache is made: a refusal of the system, a path that it cannot take, a path that
cannot be written down, and a failure of the load-path command. -/
structure HoldsOfMachine (P : Failure → Prop) : Prop where
  nulByte : P .nulByte
  notText : P .notText
  system : ∀ errno subject, P (.system errno subject)
  tool : ∀ failure, P (.tool failure)

theorem failsOnly_log (part : String) (level : Log.Level) (message : String) : FailsOnly P (Action.log part level message) :=
  failsOnly_change _

theorem failsOnly_checkManifest (hsystem : ∀ errno subject, P (.system errno subject))
    (hmissing : ∀ name path, P (.manifestMissing name path)) (hunreadable : ∀ name path, P (.manifestUnreadable name path))
    (c : Config) : FailsOnly P (checkManifest c) := by
  have hfile : ∀ path, FailsOnly P (checkFile path) := by
    intro path
    refine failsOnly_bind (failsOnly_probe hsystem _ _) fun there => failsOnly_ite (failsOnly_fail (hmissing _ _)) ?_
    exact failsOnly_bind (failsOnly_look _) fun readable => failsOnly_ite (failsOnly_fail (hunreadable _ _)) (failsOnly_pure _)
  exact failsOnly_bind (hfile _) fun _ => hfile _

namespace HoldsOfMachine

theorem makePath (hP : HoldsOfMachine P) (p : LexicalPath) : FailsOnly P (makePath p) :=
  failsOnly_makePath hP.nulByte hP.system p

theorem changeFiles (hP : HoldsOfMachine P) (path : Pathname) (f : Host → Except Errno FileSystem) :
    FailsOnly P (changeFiles path f) :=
  failsOnly_changeFiles hP.nulByte hP.system path f

theorem ensureCacheFile (hP : HoldsOfMachine P) (c : Config) : FailsOnly P (ensureCacheFile c) := by
  have hplaceholder : FailsOnly P (writePlaceholder c) := by
    refine failsOnly_bind (hP.makePath _) fun _ => failsOnly_bind (hP.makePath _) fun _ => ?_
    exact failsOnly_bind (hP.changeFiles _ _) fun _ => failsOnly_pure _
  have hask : ∀ there : Bool, FailsOnly P (if there = true then
      Action.permits (fun n => n.readable && n.writable) c.cacheFilePath else pure false) := fun there =>
    failsOnly_ite (failsOnly_look _) (failsOnly_pure _)
  have hdo : ∀ there : Bool, FailsOnly P ((if there = true then
      Action.permits (fun n => n.readable && n.writable) c.cacheFilePath else pure false) >>= fun usable =>
        if usable = true then pure true else writePlaceholder c) := fun there =>
    failsOnly_bind (hask there) fun usable => failsOnly_ite (failsOnly_pure _) hplaceholder
  refine failsOnly_bind (failsOnly_probe hP.system _ _) fun there => ?_
  cases there with
  | true => exact hdo true
  | false => exact hdo false

theorem timeOf (hP : HoldsOfMachine P) (path : LexicalPath) : FailsOnly P (timeOf path) := by
  refine failsOnly_bind (failsOnly_lookOrFail fun h e he => ?_) fun _ => failsOnly_pure _
  split_ifs at he
  · cases he
    exact hP.nulByte

theorem warnIfLockStale (hP : HoldsOfMachine P) (c : Config) : FailsOnly P (warnIfLockStale c) := by
  refine failsOnly_bind (hP.timeOf _) fun gemfile => failsOnly_bind (hP.timeOf _) fun lock => ?_
  refine failsOnly_ite (failsOnly_bind (failsOnly_log _ _ _) fun _ => ?_) (failsOnly_pure _)
  exact failsOnly_change _

theorem enumerate (hP : HoldsOfMachine P) (c : Config) : FailsOnly P (LoadPaths.enumerate c) := by
  have hrun : ∀ (command : List String) (run : ToolRun) (e : Failure), LoadPaths.ofRun command run = .error e → P e := by
    intro command run e he
    unfold LoadPaths.ofRun LoadPaths.toolFailure at he
    split at he
    · cases he
      exact hP.tool _
    · dsimp only at he
      split_ifs at he
      · cases he
        exact hP.tool _
      · split at he
        · cases he
          exact hP.tool _
        · cases he
  refine failsOnly_bind (failsOnly_probe hP.system _ _) fun rails => failsOnly_bind (failsOnly_log _ _ _) fun _ => ?_
  refine failsOnly_bind (failsOnly_change _) fun _ => ?_
  refine failsOnly_bind (failsOnly_lookOrFail fun h => hrun _ _) fun _ => ?_
  exact failsOnly_bind (failsOnly_log _ _ _) fun _ => failsOnly_pure _

theorem writeRecord (hP : HoldsOfMachine P) (c : Config) (l : Loaded) : FailsOnly P (writeRecord c l) := by
  have hinstall : ∀ path, FailsOnly P (installRecord c l path) := by
    intro path
    have hend : FailsOnly P (fail .notText : Action Unit) := failsOnly_fail hP.notText
    unfold installRecord
    cases l.record? with
    | none => exact failsOnly_attempt (hP.changeFiles _ _) (fun _ => hend) fun _ _ => hend
    | some record => exact failsOnly_bind (hP.changeFiles _ _) fun _ => hP.changeFiles _ _
  rw [writeRecord_eq]
  refine failsOnly_bind (hP.makePath _) fun _ => failsOnly_bind (hP.makePath _) fun _ => ?_
  refine failsOnly_bind (failsOnly_look _) fun path => ?_
  exact failsOnly_bind (hP.changeFiles _ _) fun _ => hinstall path

theorem rebuild (hP : HoldsOfMachine P) (c : Config) : FailsOnly P (rebuild c) := by
  refine failsOnly_bind (hP.enumerate c) fun loadPaths => ?_
  refine failsOnly_bind (failsOnly_indexLoadPaths _ _ _) fun entries => ?_
  refine failsOnly_bind (hP.writeRecord c _) fun _ => ?_
  exact failsOnly_bind (failsOnly_log _ _ _) fun _ => failsOnly_pure _

theorem rebuildFor (hP : HoldsOfMachine P) (c : Config) (reason : String) : FailsOnly P (rebuildFor c reason) :=
  failsOnly_bind (failsOnly_log _ _ _) fun _ => hP.rebuild c

/-- After the check of the cache file a load may also fail for a cause of the record that it reads. -/
theorem proceed (hP : HoldsOfMachine P) (hread : FailsOnly P (readRecord c.cacheFilePath)) (usable : Bool) :
    FailsOnly P (proceed c usable) := by
  have hlast : FailsOnly P (readOrRebuild c) := by
    refine failsOnly_attempt hread (fun record => failsOnly_bind (failsOnly_log _ _ _) fun _ => failsOnly_pure _) fun e he => ?_
    cases e with
    | cacheCorrupt path reason =>
        exact failsOnly_ite (failsOnly_fail he) (failsOnly_bind (failsOnly_log _ _ _) fun _ => hP.rebuild c)
    | _ => exact failsOnly_fail he
  refine failsOnly_bind (hP.warnIfLockStale c) fun _ => ?_
  refine failsOnly_bind (hP.timeOf _) fun lockTime => failsOnly_bind (hP.timeOf _) fun cacheTime => ?_
  exact failsOnly_ite (hP.rebuildFor c _) (failsOnly_ite (hP.rebuildFor c _) hlast)

end HoldsOfMachine

end Cache

end RequirePath
