import Mathlib.Tactic.SplitIfs
import RequirePath.Host

/-! What actions leave alone. An action changes files and adds events and leaves the rest of the machine as it
was, if log records go to the console only. What else it keeps is a relation between the machine before and
after it, which holds of an action if it holds of its parts. -/

namespace RequirePath

namespace Event

/-- A run of the load-path command. -/
def toolRun? : Event → Option (List String × Pathname)
  | .ranTool command directory => some (command, directory)
  | _ => none

end Event

namespace Host

/-- No log record goes to a file. -/
def LogsToConsole (h : Host) : Prop := ∀ s ∈ h.sinks, s = .console

/-- The runs of the load-path command. -/
def toolRuns (h : Host) : List (List String × Pathname) := h.events.filterMap Event.toolRun?

/-- The machine is the same but for its files and events. -/
def Continues (h h' : Host) : Prop := h' = { h with files := h'.files, events := h'.events }

theorem Continues.trans {h h' h'' : Host} (a : h.Continues h') (b : h'.Continues h'') : h.Continues h'' := by
  unfold Continues at *
  rw [b, a]

theorem Continues.logsToConsole {h h' : Host} (a : h.Continues h') (hc : h.LogsToConsole) : h'.LogsToConsole := by
  unfold LogsToConsole
  rw [a]
  exact hc

theorem Continues.workingDirectory {h h' : Host} (a : h.Continues h') : h'.workingDirectory = h.workingDirectory := by
  rw [a]

theorem Continues.now {h h' : Host} (a : h.Continues h') : h'.now = h.now := by
  rw [a]

theorem Continues.environment {h h' : Host} (a : h.Continues h') : h'.environment = h.environment := by
  rw [a]

theorem Continues.tool {h h' : Host} (a : h.Continues h') : h'.tool = h.tool := by
  rw [a]

theorem log_eq (hc : LogsToConsole h) (part : String) (level : Log.Level) (message : String) (exact : Bool) :
    h.log part level message exact =
      if h.keeps level then h.note (.logged part level message) else h := by
  have hall : ∀ (record : Log.Record) (sinks : List Sink) (h : Host), (∀ s ∈ sinks, s = .console) →
      sinks.foldl (deliver record exact) h = h := by
    intro record sinks
    induction sinks with
    | nil => exact fun _ _ => rfl
    | cons s sinks ih =>
        intro h hs
        rw [List.foldl_cons, hs s List.mem_cons_self]
        exact ih h fun s' hs' => hs s' (List.mem_cons_of_mem _ hs')
  unfold log
  split_ifs
  · exact hall _ _ _ hc
  · rfl

/-! Records that go to files change those files, so wherever they go the machine continues. -/

theorem continues_refl (h : Host) : h.Continues h := rfl

theorem appendQuietly_continues (h : Host) (file : LexicalPath) (bytes : List UInt8) :
    h.Continues (h.appendQuietly file bytes) := by
  unfold appendQuietly
  split_ifs
  · rfl
  · cases h.files.append h.workingDirectory file.spelling bytes h.now with
    | ok files => rfl
    | error e => rfl

theorem deliver_continues (record : Log.Record) (exact : Bool) (h : Host) (s : Sink) :
    h.Continues (deliver record exact h s) := by
  cases s with
  | console => rfl
  | lines file =>
      unfold deliver
      cases record.line (Log.timeText h.now) with
      | error e => rfl
      | ok line => exact h.appendQuietly_continues file _

theorem deliverAll_continues (record : Log.Record) (exact : Bool) (h : Host) : h.Continues (h.deliverAll record exact) := by
  suffices hall : ∀ (sinks : List Sink) (h : Host), h.Continues (sinks.foldl (deliver record exact) h) from hall h.sinks h
  intro sinks
  induction sinks with
  | nil => exact continues_refl
  | cons s sinks ih => exact fun h => (deliver_continues record exact h s).trans (ih _)

theorem log_continues (h : Host) (part : String) (level : Log.Level) (message : String) (exact : Bool) :
    h.Continues (h.log part level message exact) := by
  unfold log
  split_ifs
  · have hnote : h.Continues (h.note (.logged part level message)) := rfl
    exact hnote.trans (deliverAll_continues _ _ _)
  · rfl

/-- A relation between the machine before and after that does not see what is logged. -/
structure Frame (R : Host → Host → Prop) : Prop where
  refl : ∀ h, R h h
  trans : ∀ {a b c}, R a b → R b c → R a c
  note : ∀ h e, Event.toolRun? e = none → R h (h.note e)

/-- The files before and after are in a relation. -/
def OnFiles (F : FileSystem → FileSystem → Prop) (h h' : Host) : Prop := F h.files h'.files

/-- The files are the same, and the load-path command is not run. -/
def Idles (h h' : Host) : Prop := h'.files = h.files ∧ h'.toolRuns = h.toolRuns

theorem frame_onFiles {F : FileSystem → FileSystem → Prop} (hr : ∀ fs, F fs fs)
    (ht : ∀ {a b c}, F a b → F b c → F a c) : Frame (OnFiles F) :=
  ⟨fun h => hr h.files, fun a b => ht a b, fun h _ _ => hr h.files⟩

theorem frame_idles : Frame Idles := by
  refine ⟨fun h => ⟨rfl, rfl⟩, fun a b => ⟨b.1.trans a.1, b.2.trans a.2⟩, fun h e he => ⟨rfl, ?_⟩⟩
  simp [toolRuns, note, he]

end Host

namespace Action

variable {α β : Type} {R : Host → Host → Prop} {act : Action α} {next : α → Action β} {h h' h'' : Host}
variable {a : α} {b : β} {e : Failure}

/-! ### Actions one after another -/

theorem bind_eq : (act >>= next) h =
    match act h with
    | (.ok a, h') => next a h'
    | (.error e, h') => (.error e, h') := rfl

theorem bind_of_ok (ha : act h = (.ok a, h')) : (act >>= next) h = next a h' := by
  rw [bind_eq, ha]

theorem bind_of_error (ha : act h = (.error e, h')) : (act >>= next) h = (.error e, h') := by
  rw [bind_eq, ha]

/-- An action followed by another one ends with it, or with what follows. -/
theorem bind_cases {r : Except Failure β} (hb : (act >>= next) h = (r, h'')) :
    (∃ e, act h = (.error e, h'') ∧ r = .error e) ∨ ∃ a h', act h = (.ok a, h') ∧ next a h' = (r, h'') := by
  rcases ha : act h with ⟨e | a, h'⟩
  · rw [bind_of_error ha] at hb
    obtain ⟨rfl, rfl⟩ := Prod.mk.inj hb
    exact Or.inl ⟨e, rfl, rfl⟩
  · rw [bind_of_ok ha] at hb
    exact Or.inr ⟨a, h', rfl, hb⟩

theorem of_bind_ok (hb : (act >>= next) h = (.ok b, h'')) : ∃ a h', act h = (.ok a, h') ∧ next a h' = (.ok b, h'') := by
  rcases bind_cases hb with ⟨e, -, he⟩ | hnext
  · cases he
  · exact hnext

theorem look_bind (f : Host → α) : (look f >>= next) h = next (f h) h := rfl

/-! ### What actions keep -/

/-- An action leaves the rest of the machine as it was and keeps a relation. -/
def Within (R : Host → Host → Prop) (act : Action α) : Prop :=
  ∀ h, h.LogsToConsole → h.Continues (act h).2 ∧ R h (act h).2

theorem Within.of_eq {r : Except Failure α} (hw : Within R act) (hc : h.LogsToConsole) (ha : act h = (r, h')) :
    h.Continues h' ∧ R h h' := by
  have := hw h hc
  rwa [ha] at this

theorem within_bind (hf : Host.Frame R) (ha : Within R act) (hn : ∀ a, Within R (next a)) : Within R (act >>= next) := by
  intro h hc
  rw [bind_eq]
  rcases he : act h with ⟨e | a, h'⟩
  · exact ha.of_eq hc he
  · obtain ⟨hs, hr⟩ := ha.of_eq hc he
    obtain ⟨hs', hr'⟩ := hn a h' (hs.logsToConsole hc)
    exact ⟨hs.trans hs', hf.trans hr hr'⟩

theorem within_pure (hf : Host.Frame R) (a : α) : Within R (pure a : Action α) :=
  fun h _ => ⟨rfl, hf.refl h⟩

theorem within_fail (hf : Host.Frame R) (e : Failure) : Within R (fail e : Action α) :=
  fun h _ => ⟨rfl, hf.refl h⟩

theorem within_look (hf : Host.Frame R) (f : Host → α) : Within R (look f) :=
  fun h _ => ⟨rfl, hf.refl h⟩

/-- What follows a look at the machine may rest on what was seen. -/
theorem within_look_bind {f : Host → α} (hn : ∀ h, Within R (next (f h))) : Within R (look f >>= next) :=
  fun h hc => hn h h hc

theorem within_lookOrFail (hf : Host.Frame R) (f : Host → Except Failure α) : Within R (lookOrFail f) :=
  fun h _ => ⟨rfl, hf.refl h⟩

theorem within_attempt (ha : Within R act) : Within R (attempt act) := ha

theorem within_ite {c : Prop} [Decidable c] {act' : Action α} (ha : Within R act) (ha' : Within R act') :
    Within R (if c then act else act') := by
  split_ifs
  · exact ha
  · exact ha'

theorem within_hostLog (hf : Host.Frame R) (hc : h.LogsToConsole) (part : String) (level : Log.Level)
    (message : String) (exact : Bool) :
    h.Continues (h.log part level message exact) ∧ R h (h.log part level message exact) := by
  rw [Host.log_eq hc]
  split_ifs
  · exact ⟨rfl, hf.note h _ rfl⟩
  · exact ⟨rfl, hf.refl h⟩

theorem within_log (hf : Host.Frame R) (part : String) (level : Log.Level) (message : String) :
    Within R (log part level message) :=
  fun _ hc => within_hostLog hf hc part level message true

theorem within_warn (hf : Host.Frame R) (message : String) : Within R (warn message) :=
  fun h _ => ⟨rfl, hf.note h _ rfl⟩

theorem changeFiles_ok {path : Pathname} {f : Host → Except Errno FileSystem} {u : Unit}
    (hb : changeFiles path f h = (.ok u, h')) :
    Pathname.holdsNul path = false ∧ ∃ fs, f h = .ok fs ∧ h' = { h with files := fs } := by
  unfold changeFiles at hb
  split_ifs at hb with hnul
  · cases hb
  · cases hf : f h with
    | error e => simp [hf] at hb
    | ok fs =>
        simp only [hf, Prod.mk.injEq] at hb
        exact ⟨by simpa using hnul, fs, rfl, hb.2.symm⟩

theorem changeFiles_error {path : Pathname} {f : Host → Except Errno FileSystem}
    (hb : changeFiles path f h = (.error e, h')) : h' = h := by
  unfold changeFiles at hb
  split_ifs at hb with hnul
  · exact (congrArg Prod.snd hb).symm
  · cases hf : f h with
    | error e =>
        simp only [hf, Prod.mk.injEq] at hb
        exact hb.2.symm
    | ok fs => simp [hf] at hb

theorem within_changeFiles (hf : Host.Frame R) {path : Pathname} {f : Host → Except Errno FileSystem}
    (hr : ∀ h fs, f h = .ok fs → R h { h with files := fs }) : Within R (changeFiles path f) := by
  intro h hc
  rcases he : changeFiles path f h with ⟨e | u, h'⟩
  · rw [changeFiles_error he]
    exact ⟨rfl, hf.refl h⟩
  · obtain ⟨-, fs, hfs, rfl⟩ := changeFiles_ok he
    exact ⟨rfl, hr h fs hfs⟩

/-! ### What actions fail with -/

variable {P : Failure → Prop}

/-- An action fails for certain causes only. -/
def FailsOnly (P : Failure → Prop) (act : Action α) : Prop :=
  ∀ h e h', act h = (.error e, h') → P e

theorem failsOnly_bind (ha : FailsOnly P act) (hn : ∀ a, FailsOnly P (next a)) : FailsOnly P (act >>= next) := by
  intro h e h' hb
  rcases bind_cases hb with ⟨e', hfail, he⟩ | ⟨a, h₁, -, hnext⟩
  · cases he
    exact ha h e h' hfail
  · exact hn a h₁ e h' hnext

/-- A failure for another cause comes from what follows. -/
theorem FailsOnly.bind_error (ha : FailsOnly P act) (he : ¬P e) (hb : (act >>= next) h = (.error e, h'')) :
    ∃ a h', act h = (.ok a, h') ∧ next a h' = (.error e, h'') := by
  rcases bind_cases hb with ⟨e', hfail, he'⟩ | hnext
  · cases he'
    exact absurd (ha _ _ _ hfail) he
  · exact hnext

theorem failsOnly_pure (a : α) : FailsOnly P (pure a : Action α) := by
  intro h e h' hb
  cases hb

theorem failsOnly_fail (he : P e) : FailsOnly P (fail e : Action α) := by
  intro h e' h' hb
  cases hb
  exact he

theorem failsOnly_look (f : Host → α) : FailsOnly P (look f) := by
  intro h e h' hb
  cases hb

theorem failsOnly_change (f : Host → Host) : FailsOnly P (change f) := by
  intro h e h' hb
  cases hb

theorem failsOnly_lookOrFail {f : Host → Except Failure α} (hf : ∀ h e, f h = .error e → P e) :
    FailsOnly P (lookOrFail f) :=
  fun h e _ hb => hf h e (congrArg Prod.fst hb)

theorem failsOnly_ite {c : Prop} [Decidable c] {act' : Action α} (ha : FailsOnly P act) (ha' : FailsOnly P act') :
    FailsOnly P (if c then act else act') := by
  split_ifs
  · exact ha
  · exact ha'

/-- A failure that was caught may be raised again. -/
theorem failsOnly_attempt {next : Except Failure α → Action β} (ha : FailsOnly P act) (hok : ∀ a, FailsOnly P (next (.ok a)))
    (herror : ∀ e, P e → FailsOnly P (next (.error e))) : FailsOnly P (attempt act >>= next) := by
  intro h e h' hb
  change next (act h).1 (act h).2 = (.error e, h') at hb
  rcases hact : act h with ⟨e' | a, h₁⟩
  · rw [hact] at hb
    exact herror e' (ha h e' h₁ hact) h₁ e h' hb
  · rw [hact] at hb
    exact hok a h₁ e h' hb

theorem failsOnly_changeFiles (hnul : P .nulByte) (hsystem : ∀ e subject, P (.system e subject)) (path : Pathname)
    (f : Host → Except Errno FileSystem) : FailsOnly P (changeFiles path f) := by
  intro h e h' hb
  unfold changeFiles at hb
  split_ifs at hb
  · cases hb
    exact hnul
  · cases hf : f h with
    | error errno =>
        rw [hf] at hb
        cases hb
        exact hsystem _ _
    | ok files =>
        rw [hf] at hb
        cases hb

end Action

end RequirePath
