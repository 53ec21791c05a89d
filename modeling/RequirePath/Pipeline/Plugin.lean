import RequirePath.Cache.Store
import RequirePath.Pipeline.Outcome
import RequirePath.Resolve.Resolver

/-! The step that rewrites requests to absolute paths from the load-path cache. It is started once, which
loads the cache, and then answers requests; a request before the start is a mistake of the caller. -/

namespace RequirePath

/-- The step: the stage it taps, the stage it makes for rewritten requests, and the resolver once it is
started. -/
structure Plugin where
  source : String
  target : String
  resolver : Option Resolver := none

namespace Plugin

/-- The part of the program that logs. -/
def part : String := "plugin"

/-- Loads the cache through a store and makes the resolver, unless there is one. -/
def start (p : Plugin) (store : Store) (h : Host) : (Except Failure Resolver × Plugin × Store) × Host :=
  match p.resolver with
  | some r => ((.ok r, p, store), h)
  | none =>
    match store.load h with
    | ((.error e, store'), h') => ((.error e, p, store'), h')
    | ((.ok l, store'), h') =>
      let r : Resolver := ⟨l, store.config, Tier.standard⟩
      ((.ok r, { p with resolver := some r }, store'),
        h'.log part .debug s!"[owl:plugin] started: {r.text}" true)

/-- The path that a value is, if it is a text. -/
def pathOf : Value → Option Pathname
  | .text s => some (Pathname.ofText s)
  | _ => none

/-- Resolves the specifier of a request for its requester. -/
def resolve (r : Resolver) (request : Fields) : Action (Option Pathname) :=
  match Fields.get? "path" request, Fields.get? "request" request with
  | none, _ => Action.fail (.missingKey "path")
  | some _, none => Action.fail (.missingKey "request")
  | some requester, some specifier =>
    match pathOf specifier with
    | none => Action.fail .noOperation
    | some s => do
      let found ← r.resolve (pathOf requester) s
      pure (found.map Prod.fst)

/-- The outcome of a request: rewritten to the path that is found, declined if there is none, failed if the
request cannot be read. -/
def handle (p : Plugin) (request : Fields) : Action Outcome :=
  match p.resolver with
  | none => Action.fail .notStarted
  | some r => do
    match ← Action.attempt (resolve r request) with
    | .error e => do
      let shown := ((Fields.get? "request" request).getD .null).shown
      Action.log part .error s!"[owl:plugin] failed to resolve {shown}"
      pure (.failed (.failure e))
    | .ok none => pure .declined
    | .ok (some path) =>
      pure (.rewritten (.value (.object (Fields.set "path" (.text (Pathname.display path)) request))))

/-- The arguments with which the step calls back for a request: once, with the outcome. -/
def complete (p : Plugin) (request : Fields) : Action (List Argument) := do
  match ← Action.attempt (p.handle request) with
  | .ok outcome => pure outcome.toArguments
  | .error e => pure (Outcome.failed (.failure e)).toArguments

/-- The fields of a request. -/
def fieldsOf : Argument → Fields
  | .value (.object fields) => fields
  | _ => []

/-- The text of the step. -/
def text (p : Plugin) : String :=
  let state := if p.resolver.isSome then "started" else "not started"
  s!"{Failure.stepName}({p.source} -> {p.target}, {state})"

end Plugin

end RequirePath
