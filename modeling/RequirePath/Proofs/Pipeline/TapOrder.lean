import RequirePath.Pipeline.Hook
import RequirePath.Proofs.Pipeline.Callback

/-! The order in which a stage asks its taps. They are asked in the order of their registration, each about the request that
was sent, and the first that decides ends it: one that calls back twice, or whose only call tells a rewritten request or a
failure. Each tap before it has called back once, to decline, and no tap after it is asked. -/

namespace RequirePath

open RequirePath.Action

namespace Tap

/-- What a tap hands its callback for a request, call by call, and the machine after it. A tap with a script leaves the
machine alone; a step hands over the outcome of its handling of the request. -/
inductive Asked (steps : List Plugin) (request : Fields) : Tap → Host → List (List Argument) → Host → Prop
  | script (name : String) (calls : Argument → List (List Argument)) (h : Host) :
      Asked steps request ⟨name, .script calls⟩ h (calls (.value (.object request))) h
  | step (name : String) {number : Nat} {p : Plugin} (hp : steps[number]? = some p) (h : Host) :
      Asked steps request ⟨name, .step number⟩ h [(p.outcome request h).toArguments] (p.handle request h).2

/-- A tap calls back at least once for a request, and its step is there if it has one. -/
def CallsBack (steps : List Plugin) (request : Fields) (t : Tap) : Prop :=
  match t.action with
  | .script calls => calls (.value (.object request)) ≠ []
  | .step number => number < steps.length

variable {steps : List Plugin} {request : Fields} {t : Tap} {h h' : Host} {calls : List (List Argument)}

theorem Asked.calls_eq (ht : Asked steps request t h calls h') :
    t.calls steps (.value (.object request)) h = (.ok calls, h') := by
  cases ht with
  | script name calls h => rfl
  | @step name number p hp h =>
      rw [Tap.calls]
      simp only [hp, Plugin.fieldsOf]
      rw [bind_of_ok (p.complete_eq request h)]
      rfl

/-- A tap that calls back has been asked, and has called back. -/
theorem CallsBack.exists_asked (ht : CallsBack steps request t) (h : Host) :
    ∃ calls h', Asked steps request t h calls h' ∧ calls ≠ [] := by
  obtain ⟨name, action⟩ := t
  cases action with
  | script calls => exact ⟨_, h, .script name calls h, ht⟩
  | step number =>
      have hlt : number < steps.length := ht
      exact ⟨_, _, .step name (List.getElem?_eq_getElem hlt) h, List.cons_ne_nil _ _⟩

end Tap

namespace Hook

variable {hook hook' : Hook} {steps : List Plugin} {request : Fields} {t : Tap} {taps rest : List Tap} {name : String}
variable {h h₁ h' : Host} {arguments : List Argument} {calls : List (List Argument)} {count : Nat}

/-- Taps that are asked about a request one after another, each of which calls back once, to decline. -/
inductive Decline (steps : List Plugin) (request : Fields) : List Tap → Host → Host → Prop
  | nil (h : Host) : Decline steps request [] h h
  | cons {t : Tap} {rest : List Tap} {arguments : List Argument} {h h₁ h' : Host}
      (ht : t.Asked steps request h [arguments] h₁)
      (hd : Outcome.ofArguments arguments = .declined) (hrest : Decline steps request rest h₁ h') :
      Decline steps request (t :: rest) h h'

/-! ### One tap -/

/-- A tap with one call decides by its arguments. -/
theorem decision_once (ht : t.Asked steps request h [arguments] h₁) :
    decision steps t (.value (.object request)) h = (.ok (Outcome.ofArguments arguments), h₁) := by
  unfold decision
  rw [bind_of_ok ht.calls_eq]
  rfl

/-- A tap with more calls is an error of the tap. -/
theorem decision_again (ht : t.Asked steps request h calls h₁) (hn : 2 ≤ calls.length) :
    decision steps t (.value (.object request)) h = (.error (.answeredTwice t.name), h₁) := by
  unfold decision
  rw [bind_of_ok ht.calls_eq]
  obtain _ | ⟨first, _ | ⟨second, more⟩⟩ := calls
  · exact absurd hn (by simp)
  · exact absurd hn (by simp)
  · rfl

theorem run_decline (ht : decision steps t (.value (.object request)) h = (.ok .declined, h₁)) :
    run steps (.value (.object request)) (t :: rest) count h =
      run steps (.value (.object request)) rest (count + 1) h₁ := by
  rw [run, ht]

theorem run_decide {outcome : Outcome} (ht : decision steps t (.value (.object request)) h = (.ok outcome, h₁))
    (hd : outcome ≠ .declined) :
    run steps (.value (.object request)) (t :: rest) count h = ((.ok outcome, count + 1), h₁) := by
  rw [run, ht]
  cases outcome with
  | declined => exact absurd rfl hd
  | rewritten request => rfl
  | failed error => rfl

/-! ### All taps -/

/-- Taps that decline are passed, and counted. -/
theorem Decline.run_append (hd : Decline steps request taps h h₁) (rest : List Tap) (count : Nat) :
    run steps (.value (.object request)) (taps ++ rest) count h =
      run steps (.value (.object request)) rest (count + taps.length) h₁ := by
  induction hd generalizing count with
  | nil h => rfl
  | cons ht hd hrest ih =>
      rw [List.cons_append, run_decline (by rw [decision_once ht, hd]), ih, List.length_cons]
      congr 1
      omega

/-- The first tap that does not decline, with what it does, unless all decline. -/
theorem exists_first (hall : ∀ t ∈ taps, t.CallsBack steps request) (h : Host) :
    (∃ h', Decline steps request taps h h') ∨
    ∃ before t after h₁ calls h', taps = before ++ t :: after ∧ Decline steps request before h h₁ ∧
      t.Asked steps request h₁ calls h' ∧
      (2 ≤ calls.length ∨ ∃ arguments, calls = [arguments] ∧ Outcome.ofArguments arguments ≠ .declined) := by
  induction taps generalizing h with
  | nil => exact Or.inl ⟨h, .nil h⟩
  | cons t rest ih =>
      obtain ⟨calls, h₁, ht, hne⟩ := (hall t List.mem_cons_self).exists_asked h
      obtain _ | ⟨arguments, _ | ⟨second, more⟩⟩ := calls
      · exact absurd rfl hne
      · by_cases hd : Outcome.ofArguments arguments = .declined
        · rcases ih (fun t ht => hall t (List.mem_cons_of_mem _ ht)) h₁ with ⟨h', hrest⟩ | hfirst
          · exact Or.inl ⟨h', .cons ht hd hrest⟩
          · obtain ⟨before, t', after, h₂, calls, h', rfl, hbefore, hlast⟩ := hfirst
            exact Or.inr ⟨t :: before, t', after, h₂, calls, h', rfl, .cons ht hd hbefore, hlast⟩
        · exact Or.inr ⟨[], t, rest, h, _, h₁, rfl, .nil h, ht, Or.inr ⟨arguments, rfl, hd⟩⟩
      · exact Or.inr ⟨[], t, rest, h, _, h₁, rfl, .nil h, ht, Or.inl (by simp)⟩

/-- A stage has its taps in the order of their registration. -/
theorem taps_foldlM (hr : taps.foldlM Hook.tap hook h = (.ok hook', h')) :
    hook' = { hook with taps := hook.taps ++ taps } := by
  induction taps generalizing hook h with
  | nil =>
      cases hr
      rw [List.append_nil]
  | cons t rest ih =>
      rw [List.foldlM_cons] at hr
      obtain ⟨hook₁, h₁, ht, hrest⟩ := of_bind_ok hr
      have htap : hook₁ = { hook with taps := hook.taps ++ [t] } := by
        unfold Hook.tap at ht
        obtain ⟨_, h₂, -, hlast⟩ := of_bind_ok ht
        exact (Except.ok.inj (congrArg Prod.fst hlast)).symm
      rw [ih hrest, htap, List.append_assoc, List.singleton_append]

end Hook

end RequirePath
