import RequirePath.Pipeline.Plugin
import RequirePath.Proofs.Cache.Content
import RequirePath.Proofs.Path.Texts

/-! How the step answers the host. One request is refused before the start, and after it has an outcome, whatever its
fields hold. In the event loop any number of requests wait at once, and the loop takes them up in any order; each is
answered by one call of its callback, whose arguments tell the outcome of the request when it was taken up. -/

namespace RequirePath

open RequirePath.Action
open Pathname (ofText isText)

namespace Plugin

variable {p p' : Plugin} {r : Resolver} {h h' : Host} {request : Fields} {requester : Value} {s : String}

/-! ### One request -/

/-- A request with the text of a path in the place of its requester, and everything else as it was. -/
structure Rewrites (path : Pathname) (request request' : Fields) : Prop where
  path : ∃ s, Fields.get? "path" request' = some (.text s) ∧ (isText path = true → ofText s = path)
  others : ∀ name, name ≠ "path" → Fields.get? name request' = Fields.get? name request
  names : request'.map Prod.fst = request.map Prod.fst

/-- The outcome that a resolver gives a request on a machine. -/
inductive Answers (r : Resolver) (request : Fields) (h : Host) : Outcome → Prop
  | noPath (hp : Fields.get? "path" request = none) : Answers r request h (.failed (.failure (.missingKey "path")))
  | noSpecifier {requester : Value} (hp : Fields.get? "path" request = some requester)
      (hs : Fields.get? "request" request = none) : Answers r request h (.failed (.failure (.missingKey "request")))
  | noText {requester specifier : Value} (hp : Fields.get? "path" request = some requester)
      (hs : Fields.get? "request" request = some specifier) (ht : ∀ s, specifier ≠ .text s) :
      Answers r request h (.failed (.failure .noOperation))
  | failed {requester : Value} {s : String} {e : Failure} (hp : Fields.get? "path" request = some requester)
      (hs : Fields.get? "request" request = some (.text s))
      (ha : (r.resolve (pathOf requester) (ofText s) h).1 = .error e) : Answers r request h (.failed (.failure e))
  | declined {requester : Value} {s : String} (hp : Fields.get? "path" request = some requester)
      (hs : Fields.get? "request" request = some (.text s))
      (ha : (r.resolve (pathOf requester) (ofText s) h).1 = .ok none) : Answers r request h .declined
  | rewritten {requester : Value} {s tier : String} {path : Pathname} {request' : Fields}
      (hp : Fields.get? "path" request = some requester) (hs : Fields.get? "request" request = some (.text s))
      (ha : (r.resolve (pathOf requester) (ofText s) h).1 = .ok (some (path, tier))) (hr : Rewrites path request request') :
      Answers r request h (.rewritten (.value (.object request')))

/-- What a request comes to: the outcome of its handling, or its refusal. -/
def outcome (p : Plugin) (request : Fields) (h : Host) : Outcome :=
  match (p.handle request h).1 with
  | .ok outcome => outcome
  | .error e => .failed (.failure e)

theorem rewrites_set (hp : Fields.get? "path" request = some requester) (path : Pathname) :
    Rewrites path request (Fields.set "path" (.text (Pathname.display path)) request) where
  path := ⟨Pathname.display path, by rw [Fields.get?_set, if_pos rfl], Pathname.ofText_display⟩
  others := fun name hne => by rw [Fields.get?_set, if_neg hne]
  names := Fields.map_fst_set hp _

theorem handle_of_unstarted (hp : p.resolver = none) (request : Fields) (h : Host) :
    p.handle request h = (.error .notStarted, h) := by
  rw [handle, hp]
  rfl

/-- The outcome of a started step is told by the result of the resolver. -/
theorem handle_of_started (hp : p.resolver = some r) (request : Fields) (h : Host) :
    (p.handle request h).1 = .ok (match (resolve r request h).1 with
      | .error e => .failed (.failure e)
      | .ok none => .declined
      | .ok (some path) => .rewritten (.value (.object (Fields.set "path" (.text (Pathname.display path)) request)))) := by
  have hattempt : attempt (resolve r request) h = (.ok (resolve r request h).1, (resolve r request h).2) := rfl
  rw [handle, hp]
  dsimp only
  rw [bind_of_ok hattempt]
  rcases (resolve r request h).1 with e | - | path
  · rfl
  · rfl
  · rfl

theorem resolve_of_texts (hp : Fields.get? "path" request = some requester)
    (hs : Fields.get? "request" request = some (.text s)) :
    (resolve r request h).1 = (r.resolve (pathOf requester) (ofText s) h).1.map (Option.map Prod.fst) := by
  rw [resolve, hp, hs]
  show ((r.resolve (pathOf requester) (ofText s) >>= fun found => pure (found.map Prod.fst)) h).1 = _
  rw [bind_eq]
  rcases r.resolve (pathOf requester) (ofText s) h with ⟨e | found, h'⟩
  · rfl
  · rfl

/-- A started step never fails: each request has an outcome. -/
theorem exists_answer (hp : p.resolver = some r) (request : Fields) (h : Host) :
    ∃ outcome, (p.handle request h).1 = .ok outcome ∧ Answers r request h outcome := by
  have hhandle := handle_of_started hp request h
  cases hpath : Fields.get? "path" request with
  | none =>
      have hresolve : (resolve r request h).1 = .error (.missingKey "path") := by rw [resolve, hpath]; rfl
      rw [hresolve] at hhandle
      exact ⟨_, hhandle, .noPath hpath⟩
  | some requester =>
      cases hspecifier : Fields.get? "request" request with
      | none =>
          have hresolve : (resolve r request h).1 = .error (.missingKey "request") := by rw [resolve, hpath, hspecifier]; rfl
          rw [hresolve] at hhandle
          exact ⟨_, hhandle, .noSpecifier hpath hspecifier⟩
      | some specifier =>
          by_cases htext : ∃ s, specifier = .text s
          · obtain ⟨s, rfl⟩ := htext
            rw [resolve_of_texts hpath hspecifier] at hhandle
            rcases ha : (r.resolve (pathOf requester) (ofText s) h).1 with e | - | ⟨path, tier⟩
            · rw [ha] at hhandle
              exact ⟨_, hhandle, .failed hpath hspecifier ha⟩
            · rw [ha] at hhandle
              exact ⟨_, hhandle, .declined hpath hspecifier ha⟩
            · rw [ha] at hhandle
              exact ⟨_, hhandle, .rewritten hpath hspecifier ha (rewrites_set hpath path)⟩
          · have hno : ∀ s, specifier ≠ .text s := fun s hs => htext ⟨s, hs⟩
            have hresolve : (resolve r request h).1 = .error .noOperation := by
              rw [resolve, hpath, hspecifier]
              cases specifier with
              | text s => exact absurd rfl (hno s)
              | _ => rfl
            rw [hresolve] at hhandle
            exact ⟨_, hhandle, .noText hpath hspecifier hno⟩

/-- An outcome of the step holds a request or a failure where it should. -/
theorem ofArguments_outcome (p : Plugin) (request : Fields) (h : Host) :
    Outcome.ofArguments (p.outcome request h).toArguments = p.outcome request h := by
  unfold outcome
  cases hp : p.resolver with
  | none =>
      rw [handle_of_unstarted hp]
      rfl
  | some r =>
      obtain ⟨outcome, hhandle, hanswers⟩ := exists_answer hp request h
      rw [hhandle]
      cases hanswers <;> rfl

/-- The step calls back for every request, with arguments that tell its outcome. -/
theorem complete_eq (p : Plugin) (request : Fields) (h : Host) :
    p.complete request h = (.ok (p.outcome request h).toArguments, (p.handle request h).2) := by
  have hattempt : attempt (p.handle request) h = (.ok (p.handle request h).1, (p.handle request h).2) := rfl
  rw [complete, bind_of_ok hattempt, outcome]
  cases (p.handle request h).1 <;> rfl

/-- A start that fails leaves the step as it was; one that succeeds leaves it started, and it stays so. -/
theorem isSome_resolver_of_start {store store' : Store} {result : Except Failure Resolver}
    (ha : p.start store h = ((result, p', store'), h')) :
    p'.resolver.isSome = (p.resolver.isSome || result.toOption.isSome) := by
  unfold start at ha
  cases hp : p.resolver with
  | some r =>
      rw [hp] at ha
      cases ha
      rw [hp]
      rfl
  | none =>
      rw [hp] at ha
      rcases hload : store.load h with ⟨⟨e | l, s⟩, h₁⟩
      · rw [hload] at ha
        cases ha
        rw [hp]
        rfl
      · rw [hload] at ha
        cases ha
        rfl

/-! ### Many requests -/

/-- A call of a callback: the number of its request, and the step and the machine when it was taken up. -/
structure Call where
  number : Nat
  request : Fields
  plugin : Plugin
  host : Host
  arguments : List Argument

/-- The step in an event loop: whether it was started with success, the requests that have come in, the numbers of those
that wait, and the calls of callbacks so far. -/
structure Loop where
  plugin : Plugin
  host : Host
  started : Bool
  requests : List Fields
  waiting : List Nat
  calls : List Call

namespace Loop

variable {l l' : Loop}

/-- A loop with a new step in it. -/
def fresh (source target : String) (h : Host) : Loop := ⟨⟨source, target, none⟩, h, false, [], [], []⟩

/-- What can happen in the loop. A request comes in, however many wait; a start ends, well or not; one of the requests that
wait is taken up, which need not be the first one; and between all that the machine changes as it likes. -/
inductive Step : Loop → Loop → Prop
  | outside (l : Loop) (h : Host) : Step l { l with host := h }
  | tap (l : Loop) (request : Fields) :
      Step l { l with requests := l.requests ++ [request], waiting := l.waiting ++ [l.requests.length] }
  | start (l : Loop) {store store' : Store} {result : Except Failure Resolver} {p : Plugin} {h : Host}
      (ha : l.plugin.start store l.host = ((result, p, store'), h)) :
      Step l { l with plugin := p, host := h, started := l.started || result.toOption.isSome }
  | takeUp (l : Loop) {before after : List Nat} {number : Nat} {request : Fields} {arguments : List Argument} {h : Host}
      (hw : l.waiting = before ++ number :: after) (hr : l.requests[number]? = some request)
      (ha : l.plugin.complete request l.host = (.ok arguments, h)) :
      Step l { l with host := h, waiting := before ++ after
                      calls := l.calls ++ [⟨number, request, l.plugin, l.host, arguments⟩] }

/-- The loops that come of a new step. -/
def Reached (l : Loop) : Prop := ∃ source target h, Relation.ReflTransGen Step (fresh source target h) l

/-- Each request waits or has been answered by one call, and the arguments of each call tell the outcome of its request. -/
structure Accounted (l : Loop) : Prop where
  started : l.plugin.resolver.isSome = l.started
  once : (l.waiting ++ l.calls.map Call.number).Perm (List.range l.requests.length)
  told : ∀ call ∈ l.calls, l.requests[call.number]? = some call.request ∧
    Outcome.ofArguments call.arguments = call.plugin.outcome call.request call.host

theorem accounted_fresh (source target : String) (h : Host) : Accounted (fresh source target h) where
  started := rfl
  once := .refl _
  told := fun _ hcall => absurd hcall List.not_mem_nil

theorem Accounted.step (hl : Accounted l) (hs : Step l l') : Accounted l' := by
  cases hs with
  | outside h => exact ⟨hl.started, hl.once, hl.told⟩
  | tap request =>
      refine ⟨hl.started, ?_, fun call hcall => ?_⟩
      · rw [List.length_append, List.length_singleton, List.range_succ, List.append_assoc]
        exact (List.Perm.append_left _ List.perm_append_comm).trans
          (by rw [← List.append_assoc]; exact hl.once.append_right _)
      · obtain ⟨hrequest, htold⟩ := hl.told call hcall
        have hlt := (List.getElem?_eq_some_iff.1 hrequest).1
        exact ⟨by rw [List.getElem?_append_left hlt, hrequest], htold⟩
  | start ha => exact ⟨by rw [isSome_resolver_of_start ha, hl.started], hl.once, hl.told⟩
  | @takeUp before after number request arguments h hw hr ha =>
      refine ⟨hl.started, ?_, fun call hcall => ?_⟩
      · -- the number goes from the middle of those that wait to the end of those that are answered
        have hmove : (before ++ after ++ (l.calls.map Call.number ++ [number])).Perm (l.waiting ++ l.calls.map Call.number) := by
          rw [hw, List.append_assoc, List.append_assoc, ← List.append_assoc after]
          exact List.Perm.append_left _ (List.perm_append_singleton _ _)
        rw [List.map_append]
        exact hmove.trans hl.once
      · rcases List.mem_append.1 hcall with hcall | hcall
        · exact hl.told call hcall
        · obtain rfl := List.mem_singleton.1 hcall
          rw [complete_eq] at ha
          have harguments := Except.ok.inj (congrArg Prod.fst ha)
          exact ⟨hr, by rw [← harguments, ofArguments_outcome]⟩

theorem Reached.accounted (hl : Reached l) : Accounted l := by
  obtain ⟨source, target, h, hsteps⟩ := hl
  induction hsteps with
  | refl => exact accounted_fresh source target h
  | tail _ hs ih => exact ih.step hs

/-- The loop can take up all requests that wait. -/
theorem Accounted.drain (hl : Accounted l) :
    ∃ l', Relation.ReflTransGen Step l l' ∧ l'.requests = l.requests ∧ l'.waiting = [] := by
  induction hn : l.waiting.length generalizing l with
  | zero => exact ⟨l, .refl, rfl, List.length_eq_zero_iff.1 hn⟩
  | succ n ih =>
      obtain ⟨number, rest, hw⟩ := List.exists_cons_of_length_eq_add_one hn
      have hmem : number ∈ List.range l.requests.length :=
        hl.once.subset (List.mem_append_left _ (hw ▸ List.mem_cons_self))
      have hs : Step l _ :=
        .takeUp l (show l.waiting = [] ++ number :: rest from hw) (List.getElem?_eq_getElem (List.mem_range.1 hmem))
          (complete_eq _ _ _)
      have hrest : rest.length = n := by
        rw [hw, List.length_cons] at hn
        omega
      obtain ⟨l', hsteps, hrequests, hwaiting⟩ := ih (hl.step hs) hrest
      exact ⟨l', hsteps.head hs, hrequests, hwaiting⟩

end Loop

end Plugin

end RequirePath
