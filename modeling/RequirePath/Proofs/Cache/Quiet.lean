import RequirePath.Cache.Store
import RequirePath.Proofs.File.Actions

/-! The parts of a load and of a rebuild that leave files alone: the checks, the questions for times, the
reading of the record, the run of the load-path command and the walks. -/

namespace RequirePath

open RequirePath.Action

variable {R : Host → Host → Prop} {h h' : Host} {c : Config} {path : LexicalPath} {cwd : Location}

namespace Cache

theorem within_logNotes (hf : Host.Frame R) (notes : List Walk.Note) : Within R (logNotes notes) := by
  intro h hc
  change h.Continues (notes.foldl _ h) ∧ R h (notes.foldl _ h)
  induction notes generalizing h with
  | nil => exact ⟨rfl, hf.refl h⟩
  | cons n notes ih =>
      obtain ⟨hs, hr⟩ := within_hostLog hf hc walkPart .debug n.message (Pathname.isText n.path)
      obtain ⟨hs', hr'⟩ := ih _ (hs.logsToConsole hc)
      exact ⟨hs.trans hs', hf.trans hr hr'⟩

theorem within_indexDirectory (hf : Host.Frame R) (root : Pathname) (restriction : Walk.Restriction)
    (suffixes : List Pathname) : Within R (indexDirectory root restriction suffixes) :=
  within_bind hf (within_look hf _) fun ⟨_, notes⟩ =>
    within_bind hf (within_logNotes hf notes) fun _ => within_pure hf _

theorem within_indexLoadPaths (hf : Host.Frame R) (restriction : Walk.Restriction) (suffixes roots : List Pathname) :
    Within R (indexLoadPaths restriction suffixes roots) := by
  induction roots with
  | nil => exact within_pure hf _
  | cons root rest ih =>
      refine within_bind hf (within_indexDirectory hf root restriction suffixes) fun found => ?_
      refine within_bind hf (fun h hc => within_hostLog hf hc _ _ _ _) fun _ => ?_
      exact within_bind hf ih fun others => within_pure hf _

/-- The index of load paths never fails. -/
theorem failsOnly_indexLoadPaths {P : Failure → Prop} (restriction : Walk.Restriction) (suffixes roots : List Pathname) :
    FailsOnly P (indexLoadPaths restriction suffixes roots) := by
  induction roots with
  | nil => exact failsOnly_pure _
  | cons root rest ih =>
      have hdirectory : FailsOnly P (indexDirectory root restriction suffixes) :=
        failsOnly_bind (failsOnly_look _) fun _ => failsOnly_bind (failsOnly_change _) fun _ => failsOnly_pure _
      refine failsOnly_bind hdirectory fun found => failsOnly_bind (failsOnly_change _) fun _ => ?_
      exact failsOnly_bind ih fun others => failsOnly_pure _

/-- The run of the load-path command is an event, and nothing else is changed. -/
theorem within_enumerate (hf : Host.Frame R) (hn : ∀ h e, R h (h.note e)) (c : Config) :
    Within R (LoadPaths.enumerate c) := by
  refine within_bind hf (within_probe hf _ _) fun rails => ?_
  refine within_bind hf (within_log hf _ _ _) fun _ => ?_
  refine within_bind hf (fun h _ => ⟨rfl, hn h _⟩) fun _ => ?_
  refine within_bind hf (within_lookOrFail hf _) fun found => ?_
  exact within_bind hf (within_log hf _ _ _) fun _ => within_pure hf _

theorem within_checkFile (hf : Host.Frame R) (path : LexicalPath) : Within R (checkFile path) := by
  refine within_bind hf (within_probe hf _ _) fun there => ?_
  refine within_ite (within_fail hf _) (within_bind hf (within_look hf _) fun readable => ?_)
  exact within_ite (within_fail hf _) (within_pure hf ())

theorem within_checkManifest (hf : Host.Frame R) (c : Config) : Within R (checkManifest c) :=
  within_bind hf (within_checkFile hf _) fun _ => within_checkFile hf _

theorem within_timeOf (hf : Host.Frame R) (path : LexicalPath) : Within R (timeOf path) :=
  within_bind hf (within_lookOrFail hf _) fun _ => within_pure hf _

theorem within_warnIfLockStale (hf : Host.Frame R) (c : Config) : Within R (warnIfLockStale c) := by
  refine within_bind hf (within_timeOf hf _) fun gemfile => ?_
  refine within_bind hf (within_timeOf hf _) fun lock => ?_
  exact within_ite (within_bind hf (within_log hf _ _ _) fun _ => within_warn hf _) (within_pure hf ())

/-! ### Results of questions -/

theorem permits_of_status {access : Node → Bool} {n : Node}
    (hs : h.files.status h.workingDirectory path.spelling = .ok n) :
    Action.permits access path h = (.ok (access n), h) := by
  simp [Action.permits, look, FileSystem.permits, hs]

theorem permits_ok {access : Node → Bool} {n : Node} {b : Bool} (ha : Action.permits access path h = (.ok b, h'))
    (hs : h.files.status h.workingDirectory path.spelling = .ok n) : h' = h ∧ b = access n := by
  rw [permits_of_status hs, Prod.mk.injEq, Except.ok.injEq] at ha
  exact ⟨ha.2.symm, ha.1.symm⟩

/-- A file of the project is accepted if its path leads to a file that may be read. -/
theorem checkFile_of_status {n : Node} (hnul : Pathname.holdsNul path.spelling = false)
    (hs : h.files.status h.workingDirectory path.spelling = .ok n) (hfile : n.isFile = true)
    (hread : n.readable = true) : checkFile path h = (.ok (), h) := by
  unfold checkFile
  rw [bind_of_ok (probe_of_status hnul hs), hfile]
  simp only [Bool.not_true, Bool.false_eq_true, if_false]
  rw [bind_of_ok (permits_of_status hs), hread]
  rfl

theorem checkFile_ok (ha : checkFile path h = (.ok (), h')) :
    h' = h ∧ Pathname.holdsNul path.spelling = false ∧
      ∃ n, h.files.status h.workingDirectory path.spelling = .ok n ∧ n.isFile = true ∧ n.readable = true := by
  unfold checkFile at ha
  obtain ⟨there, h₁, hp, ha⟩ := of_bind_ok ha
  obtain ⟨rfl, hp⟩ := probe_ok hp
  cases there with
  | false => cases ha
  | true =>
      obtain ⟨hnul, n, hs, hfile⟩ := probe_true_iff.1 hp
      rw [if_neg (by decide)] at ha
      obtain ⟨readable, h₂, hl, ha⟩ := of_bind_ok ha
      obtain ⟨rfl, rfl⟩ := permits_ok hl hs
      cases hread : n.readable with
      | false =>
          rw [hread] at ha
          cases ha
      | true =>
          rw [hread] at ha
          exact ⟨(congrArg Prod.snd ha).symm, hnul, n, hs, hfile, hread⟩

theorem timeOf_eq (hnul : Pathname.holdsNul path.spelling = false) :
    timeOf path h = (.ok ((h.files.modified? h.workingDirectory path.spelling).getD 0), h) := by
  unfold timeOf
  rw [bind_of_ok (modified?_eq hnul)]
  rfl

theorem timeOf_ok {t : Dyadic} (ha : timeOf path h = (.ok t, h')) :
    Pathname.holdsNul path.spelling = false ∧ h' = h ∧ t = (h.files.modified? h.workingDirectory path.spelling).getD 0 := by
  unfold timeOf at ha
  obtain ⟨time, h₁, hmodified, hlast⟩ := of_bind_ok ha
  obtain ⟨hnul, rfl, rfl⟩ := modified?_ok hmodified
  obtain ⟨ht, rfl⟩ := Prod.mk.inj hlast
  exact ⟨hnul, rfl, (Except.ok.inj ht).symm⟩

end Cache

end RequirePath
