import RequirePath.Proofs.Cache.Write

/-! What has been logged makes no difference to a rebuild. The events of a machine are only added to, so an action
gives the same, and leaves the same files, after any events. -/

namespace RequirePath

open RequirePath.Action

namespace Host

/-- The machine after other events. -/
def after (events : List Event) (h : Host) : Host := { h with events := events }

theorem appendQuietly_after (h : Host) (events : List Event) (file : LexicalPath) (bytes : List UInt8) :
    (h.after events).appendQuietly file bytes = (h.appendQuietly file bytes).after events := by
  simp only [appendQuietly, after]
  split_ifs
  · rfl
  · cases h.files.append h.workingDirectory file.spelling bytes h.now <;> rfl

theorem deliver_after (record : Log.Record) (exact : Bool) (s : Sink) (h : Host) (events : List Event) :
    deliver record exact (h.after events) s = (deliver record exact h s).after events := by
  cases s with
  | console => rfl
  | lines file =>
      have hnow : (h.after events).now = h.now := rfl
      simp only [deliver, hnow]
      cases record.line (Log.timeText h.now) with
      | error e => rfl
      | ok line => exact h.appendQuietly_after events file _

theorem deliverAll_after (record : Log.Record) (exact : Bool) (h : Host) (events : List Event) :
    (h.after events).deliverAll record exact = (h.deliverAll record exact).after events := by
  have hall : ∀ (sinks : List Sink) (h : Host),
      sinks.foldl (deliver record exact) (h.after events) = (sinks.foldl (deliver record exact) h).after events := by
    intro sinks
    induction sinks with
    | nil => exact fun _ => rfl
    | cons s sinks ih => exact fun h => by rw [List.foldl_cons, List.foldl_cons, deliver_after, ih]
  exact hall h.sinks h

theorem log_after (h : Host) (events : List Event) (part : String) (level : Log.Level) (message : String) (exact : Bool) :
    ∃ events', (h.after events).log part level message exact = (h.log part level message exact).after events' := by
  by_cases hkeeps : h.keeps level = true
  · refine ⟨events ++ [.logged part level message], ?_⟩
    have hthere : (h.after events).keeps level = true := hkeeps
    rw [log, log, if_pos hkeeps, if_pos hthere, ← deliverAll_after]
    rfl
  · refine ⟨events, ?_⟩
    have hthere : ¬(h.after events).keeps level = true := hkeeps
    rw [log, log, if_neg hkeeps, if_neg hthere]

end Host

namespace Action

variable {α β : Type} {act : Action α} {next : α → Action β} {h : Host}

/-- An action gives the same after other events, and leaves the same but for the events. -/
def IgnoresEvents (act : Action α) : Prop :=
  ∀ h events, ∃ events', act (h.after events) = ((act h).1, (act h).2.after events')

theorem ignoresEvents_bind (ha : IgnoresEvents act) (hn : ∀ a, IgnoresEvents (next a)) : IgnoresEvents (act >>= next) := by
  intro h events
  obtain ⟨events', heq⟩ := ha h events
  rcases hact : act h with ⟨e | a, h'⟩
  · rw [hact] at heq
    exact ⟨events', by rw [bind_of_error heq, bind_of_error hact]⟩
  · rw [hact] at heq
    obtain ⟨events'', hnext⟩ := hn a h' events'
    exact ⟨events'', by rw [bind_of_ok heq, bind_of_ok hact, hnext]⟩

theorem ignoresEvents_pure (a : α) : IgnoresEvents (pure a : Action α) :=
  fun _ events => ⟨events, rfl⟩

theorem ignoresEvents_fail (e : Failure) : IgnoresEvents (fail e : Action α) :=
  fun _ events => ⟨events, rfl⟩

theorem ignoresEvents_look {f : Host → α} (hf : ∀ h events, f (h.after events) = f h) : IgnoresEvents (look f) :=
  fun h events => ⟨events, by rw [look, hf]; rfl⟩

theorem ignoresEvents_lookOrFail {f : Host → Except Failure α} (hf : ∀ h events, f (h.after events) = f h) :
    IgnoresEvents (lookOrFail f) :=
  fun h events => ⟨events, by rw [lookOrFail, hf]; rfl⟩

theorem ignoresEvents_attempt (ha : IgnoresEvents act) : IgnoresEvents (attempt act) := by
  intro h events
  obtain ⟨events', heq⟩ := ha h events
  exact ⟨events', by rw [attempt, heq]; rfl⟩

theorem ignoresEvents_ite {c : Prop} [Decidable c] {act' : Action α} (ha : IgnoresEvents act)
    (ha' : IgnoresEvents act') : IgnoresEvents (if c then act else act') := by
  split_ifs
  · exact ha
  · exact ha'

theorem ignoresEvents_note (e : Host → Event) (he : ∀ h events, e (h.after events) = e h) :
    IgnoresEvents (change fun h => h.note (e h)) :=
  fun h events => ⟨events ++ [e h], by rw [change, he]; rfl⟩

theorem ignoresEvents_log (part : String) (level : Log.Level) (message : String) :
    IgnoresEvents (log part level message) := by
  intro h events
  obtain ⟨events', heq⟩ := h.log_after events part level message true
  exact ⟨events', by rw [log, change, heq]; rfl⟩

theorem ignoresEvents_changeFiles (path : Pathname) {f : Host → Except Errno FileSystem}
    (hf : ∀ h events, f (h.after events) = f h) : IgnoresEvents (changeFiles path f) := by
  intro h events
  refine ⟨events, ?_⟩
  unfold changeFiles
  rw [hf]
  split_ifs
  · rfl
  · cases f h <;> rfl

theorem ignoresEvents_probe (kind : Node → Bool) (p : LexicalPath) : IgnoresEvents (probe kind p) :=
  ignoresEvents_lookOrFail fun _ _ => rfl

theorem ignoresEvents_settle (p : LexicalPath) (e : Failure) : IgnoresEvents (settle p e) :=
  ignoresEvents_bind (ignoresEvents_probe _ _) fun _ => ignoresEvents_ite (ignoresEvents_pure ()) (ignoresEvents_fail e)

theorem ignoresEvents_ensureDirectory (p : LexicalPath) : IgnoresEvents (ensureDirectory p) := by
  refine ignoresEvents_bind (ignoresEvents_attempt (ignoresEvents_changeFiles _ fun _ _ => rfl)) fun r => ?_
  split
  · exact ignoresEvents_pure ()
  · exact ignoresEvents_fail _
  · exact ignoresEvents_settle _ _
  · exact ignoresEvents_fail _

theorem ignoresEvents_makePath (p : LexicalPath) : IgnoresEvents (makePath p) := by
  unfold makePath
  induction p.names.reverse with
  | nil => exact ignoresEvents_ensureDirectory _
  | cons name outer ih =>
      refine ignoresEvents_bind (ignoresEvents_attempt (ignoresEvents_changeFiles _ fun _ _ => rfl)) fun r => ?_
      split
      · exact ignoresEvents_pure ()
      · exact ignoresEvents_bind ih fun _ => ignoresEvents_ensureDirectory _
      · exact ignoresEvents_settle _ _
      · exact ignoresEvents_fail _

end Action

namespace Cache

theorem ignoresEvents_logNotes (notes : List Walk.Note) : IgnoresEvents (logNotes notes) := by
  -- which events the next note is logged after depends on those before it
  have hall : ∀ (notes : List Walk.Note) (h : Host) (events : List Event), ∃ events',
      notes.foldl (fun h n => h.log walkPart .debug n.message (Pathname.isText n.path)) (h.after events) =
        (notes.foldl (fun h n => h.log walkPart .debug n.message (Pathname.isText n.path)) h).after events' := by
    intro notes
    induction notes with
    | nil => exact fun h events => ⟨events, rfl⟩
    | cons n notes ih =>
        intro h events
        obtain ⟨events', heq⟩ := h.log_after events walkPart .debug n.message (Pathname.isText n.path)
        rw [List.foldl_cons, List.foldl_cons, heq]
        exact ih _ events'
  intro h events
  obtain ⟨events', heq⟩ := hall notes h events
  exact ⟨events', by rw [logNotes, change, heq]; rfl⟩

theorem ignoresEvents_indexLoadPaths (restriction : Walk.Restriction) (suffixes roots : List Pathname) :
    IgnoresEvents (indexLoadPaths restriction suffixes roots) := by
  induction roots with
  | nil => exact ignoresEvents_pure _
  | cons root rest ih =>
      have hdirectory : IgnoresEvents (indexDirectory root restriction suffixes) :=
        ignoresEvents_bind (ignoresEvents_look fun _ _ => rfl) fun _ =>
          ignoresEvents_bind (ignoresEvents_logNotes _) fun _ => ignoresEvents_pure _
      have hlog : ∀ message, IgnoresEvents
          (Action.change fun h => h.log walkPart .debug message (Pathname.isText root)) := by
        intro message h events
        obtain ⟨events', heq⟩ := h.log_after events walkPart .debug message (Pathname.isText root)
        exact ⟨events', by rw [change, heq]; rfl⟩
      refine ignoresEvents_bind hdirectory fun found => ignoresEvents_bind (hlog _) fun _ => ?_
      exact ignoresEvents_bind ih fun others => ignoresEvents_pure _

theorem ignoresEvents_enumerate (c : Config) : IgnoresEvents (LoadPaths.enumerate c) := by
  refine ignoresEvents_bind (ignoresEvents_probe _ _) fun rails => ignoresEvents_bind (ignoresEvents_log _ _ _) fun _ => ?_
  refine ignoresEvents_bind (ignoresEvents_note _ fun _ _ => rfl) fun _ => ?_
  refine ignoresEvents_bind (ignoresEvents_lookOrFail fun _ _ => rfl) fun found => ?_
  exact ignoresEvents_bind (ignoresEvents_log _ _ _) fun _ => ignoresEvents_pure _

theorem ignoresEvents_writeRecord (c : Config) (l : Loaded) : IgnoresEvents (writeRecord c l) := by
  have hinstall : ∀ path, IgnoresEvents (installRecord c l path) := by
    intro path
    unfold installRecord
    cases l.record? with
    | none =>
        refine ignoresEvents_bind (ignoresEvents_attempt (ignoresEvents_changeFiles _ fun _ _ => rfl)) fun _ => ?_
        exact ignoresEvents_fail _
    | some record =>
        refine ignoresEvents_bind (ignoresEvents_changeFiles _ fun _ _ => rfl) fun _ => ?_
        exact ignoresEvents_changeFiles _ fun _ _ => rfl
  rw [writeRecord_eq]
  refine ignoresEvents_bind (ignoresEvents_makePath _) fun _ => ignoresEvents_bind (ignoresEvents_makePath _) fun _ => ?_
  refine ignoresEvents_bind (ignoresEvents_look fun _ _ => rfl) fun path => ?_
  exact ignoresEvents_bind (ignoresEvents_changeFiles _ fun _ _ => rfl) fun _ => hinstall path

theorem ignoresEvents_rebuild (c : Config) : IgnoresEvents (rebuild c) := by
  refine ignoresEvents_bind (ignoresEvents_enumerate c) fun loadPaths => ?_
  refine ignoresEvents_bind (ignoresEvents_indexLoadPaths _ _ _) fun entries => ?_
  refine ignoresEvents_bind (ignoresEvents_writeRecord c _) fun _ => ?_
  exact ignoresEvents_bind (ignoresEvents_log _ _ _) fun _ => ignoresEvents_pure _

end Cache

end RequirePath
