import RequirePath.Proofs.Cache.Calls
import RequirePath.Proofs.Cache.Reload

/-! The life of a store. Its calls succeed or fail in any order, and the machine changes between them. What it keeps is
what the last load or rebuild that succeeded has given, unless it was cleared since: each call is one case of that. -/

namespace RequirePath

open FileSystem RequirePath.Action

namespace Store

open Pathname (ofText)

variable {c : Config} {l : Loaded} {s s' : Store} {h h' : Host} {r : Except Failure Loaded}

/-- A call of a store that has ended, and how. -/
inductive Call
  | load (r : Except Failure Loaded)
  | rebuild (r : Except Failure Loaded)
  | status (r : Except Failure CacheReport)
  | clear (r : Except Failure Bool)

namespace Call

/-- What a load or a rebuild that has succeeded gives. -/
def given? : Call → Option Loaded
  | .load r => r.toOption
  | .rebuild r => r.toOption
  | .status _ => none
  | .clear _ => none

def isClear : Call → Bool
  | .clear _ => true
  | _ => false

end Call

/-- The calls since the last clearing, or all of them if there was none. The last call is the first one. -/
def sinceClear (calls : List Call) : List Call := calls.takeWhile fun call => !call.isClear

/-- The runs of one store: the machine and the store after its calls, the last one first. Between calls the machine
changes as it likes, but log records go to the console. -/
inductive Life (c : Config) : Host → Store → List Call → Prop
  | start (h : Host) (hc : h.LogsToConsole) : Life c h ⟨c, none⟩ []
  | outside {h s calls} (hl : Life c h s calls) (h' : Host) (hc : h'.LogsToConsole) : Life c h' s calls
  | load {h h' s s' calls r} (hl : Life c h s calls) (ha : s.load h = ((r, s'), h')) : Life c h' s' (.load r :: calls)
  | rebuild {h h' s s' calls r} (hl : Life c h s calls) (ha : s.rebuild h = ((r, s'), h')) :
      Life c h' s' (.rebuild r :: calls)
  | status {h h' s calls r} (hl : Life c h s calls) (ha : s.status h = (r, h')) : Life c h' s (.status r :: calls)
  | clear {h h' s s' calls r} (hl : Life c h s calls) (ha : s.clear h = ((r, s'), h')) : Life c h' s' (.clear r :: calls)

/-! ### What one call does -/

theorem load_of_loaded (hs : s.loaded = some l) (h : Host) : s.load h = ((.ok l, s), h) := by
  rw [load, hs]

theorem load_keeps (ha : s.load h = ((r, s'), h')) : s' = ⟨s.config, r.toOption.or s.loaded⟩ := by
  cases hs : s.loaded with
  | some l =>
      rw [load_of_loaded hs] at ha
      cases ha
      rw [Except.toOption, Option.some_or, ← hs]
  | none =>
      rw [load, hs] at ha
      rw [(keeping_eq ha).2, hs]

/-- A description changes no file and does not run the load-path command. -/
theorem status_idles {r : Except Failure CacheReport} (hc : h.LogsToConsole) (ha : s.status h = (r, h')) :
    h.Continues h' ∧ h.Idles h' :=
  (Cache.within_status Host.frame_idles s.config).of_eq hc ha

/-! ### Whole lives -/

theorem Life.logsToConsole {calls : List Call} (hl : Life c h s calls) : h.LogsToConsole := by
  induction hl with
  | start h hc => exact hc
  | outside hl h' hc ih => exact hc
  | @load h h' s s' calls r hl ha ih =>
      have hcontinues := ((Cache.Covers.anyFiles s.config).store_load ih).1
      rw [ha] at hcontinues
      exact hcontinues.logsToConsole ih
  | @rebuild h h' s s' calls r hl ha ih =>
      have hcontinues := ((Cache.Covers.anyFiles s.config).store_rebuild ih).1
      rw [ha] at hcontinues
      exact hcontinues.logsToConsole ih
  | status hl ha ih => exact (status_idles ih ha).1.logsToConsole ih
  | @clear h h' s s' calls r hl ha ih =>
      have hcontinues := ((Cache.Covers.anyFiles s.config).store_clear ih).1
      rw [ha] at hcontinues
      exact hcontinues.logsToConsole ih

/-- A store keeps what the first of its calls, from the last one back to the last clearing, has given. -/
theorem Life.loaded_eq {calls : List Call} (hl : Life c h s calls) :
    s.loaded = (sinceClear calls).findSome? Call.given? := by
  have hcons : ∀ (call : Call) (calls : List Call), call.isClear = false →
      (sinceClear (call :: calls)).findSome? Call.given? = call.given?.or ((sinceClear calls).findSome? Call.given?) := by
    intro call calls hcall
    rw [sinceClear, List.takeWhile_cons, if_pos (by rw [hcall]; rfl), List.findSome?_cons]
    cases call.given? <;> rfl
  induction hl with
  | start h hc => rfl
  | outside hl h' hc ih => exact ih
  | load hl ha ih => rw [load_keeps ha, ih, hcons _ _ rfl, Call.given?]
  | rebuild hl ha ih => rw [(keeping_eq ha).2, ih, hcons _ _ rfl, Call.given?]
  | status hl ha ih => rw [ih, hcons _ _ rfl, Call.given?, Option.none_or]
  | clear hl ha ih =>
      cases ha
      rfl

/-- A store is unloaded exactly if no load or rebuild has succeeded since it was made or cleared, and else it keeps what
the last one has given. A description changes nothing, and a load of a store that is loaded gives what it keeps, whatever
the machine has become. -/
theorem Life.keeps_last_given {calls : List Call} (hl : Life c h s calls) :
    (s.loaded = none ↔ ∀ call ∈ sinceClear calls, call.given? = none) ∧
    (∀ l, s.loaded = some l ↔ ∃ after call before, sinceClear calls = after ++ call :: before ∧
      call.given? = some l ∧ ∀ later ∈ after, later.given? = none) ∧
    (∀ r h', s.status h = (r, h') → h'.files = h.files ∧ h'.toolRuns = h.toolRuns) ∧
    ∀ l, s.loaded = some l → ∀ h', s.load h' = ((.ok l, s), h') := by
  refine ⟨?_, fun l => ?_, fun r h' ha => (status_idles hl.logsToConsole ha).2, fun l hs h' => load_of_loaded hs h'⟩
  · rw [hl.loaded_eq, List.findSome?_eq_none_iff]
  · rw [hl.loaded_eq, List.findSome?_eq_some_iff]

/-- A store loads, the load-path command breaks, and a rebuild fails: the store keeps what it has loaded. -/
theorem keeps_last_given_sample :
    let found : Loaded := ⟨[ofText "/lib"], [ofText "/lib/x.rb"], true⟩
    ∃ h s e, Life sampleConfig h s [.rebuild (.error e), .load (.ok found)] ∧ s.loaded = some found := by
  intro found
  let broken : Host := { sampleHost with tool := .cannotStart .noEntry }
  have hlog : ∀ s ∈ ([] : List Sink), s = .console := fun _ hs => absurd hs List.not_mem_nil
  obtain ⟨hfirst, -⟩ := load_sampleHost
  have hsecond : (rebuild ⟨sampleConfig, some found⟩ broken).1.1.toOption = none := by decide
  rcases hload : load ⟨sampleConfig, none⟩ sampleHost with ⟨⟨e | l, s₁⟩, h₁⟩
  · rw [hload] at hfirst
    cases hfirst
  rw [hload] at hfirst
  obtain rfl : l = found := Option.some.inj hfirst
  obtain rfl : s₁ = ⟨sampleConfig, some found⟩ := load_keeps hload
  rcases hrebuild : rebuild ⟨sampleConfig, some found⟩ broken with ⟨⟨e | l, s₂⟩, h₂⟩
  · have hlife := (((Life.start sampleHost hlog).load hload).outside broken hlog).rebuild hrebuild
    refine ⟨h₂, s₂, e, hlife, (hlife.keeps_last_given.2.1 found).2 ⟨[.rebuild (.error e)], .load (.ok found), [], rfl, rfl, ?_⟩⟩
    exact fun later hlater => by rw [List.mem_singleton.1 hlater]; rfl
  · rw [hrebuild] at hsecond
    cases hsecond

end Store

end RequirePath
