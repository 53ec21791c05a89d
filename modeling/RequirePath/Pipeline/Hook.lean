import RequirePath.Pipeline.Plugin

/-! Named stages of the host's resolution pipeline. A stage has taps, each of which answers a request by
calling back; the first tap that rewrites the request or fails it decides. -/

namespace RequirePath

/-- How a tap answers: by calls of the callback that are laid down for every request, each with its
arguments, or through the step of a number. -/
inductive TapAction
  | script (calls : Argument → List (List Argument))
  | step (number : Nat)

/-- A tap: its name and how it answers. -/
structure Tap where
  name : String
  action : TapAction

/-- The calls of the callback that a tap makes for a request. -/
def Tap.calls (t : Tap) (steps : List Plugin) (request : Argument) : Action (List (List Argument)) :=
  match t.action with
  | .script calls => pure (calls request)
  | .step number =>
    match steps[number]? with
    | none => pure []
    | some p => do
      let arguments ← p.complete (Plugin.fieldsOf request)
      pure [arguments]

/-- A stage and its taps, in the order of their registration. -/
structure Hook where
  name : String
  taps : List Tap

namespace Hook

/-- The part of the program that logs. -/
def part : String := "pipeline"

/-- Registers a tap. -/
def tap (hook : Hook) (t : Tap) : Action Hook := do
  Action.log part .debug s!"[owl:pipeline] {t.name} tapped into {hook.name}"
  pure { hook with taps := hook.taps ++ [t] }

/-- What a tap decides: it must call back once. A tap that has not called back when it is done decides
nothing. -/
def decision (steps : List Plugin) (t : Tap) (request : Argument) : Action Outcome := do
  match ← t.calls steps request with
  | [] => pure .declined
  | [arguments] => pure (Outcome.ofArguments arguments)
  | _ => Action.fail (.answeredTwice t.name)

/-- Runs taps one after another until one decides; the number counts those that have run. -/
def run (steps : List Plugin) (request : Argument) :
    List Tap → Nat → Host → (Except Failure Outcome × Nat) × Host
  | [], count, h => ((.ok .declined, count), h)
  | t :: rest, count, h =>
    match decision steps t request h with
    | (.error e, h') => ((.error e, count + 1), h')
    | (.ok .declined, h') => run steps request rest (count + 1) h'
    | (.ok outcome, h') => ((.ok outcome, count + 1), h')

/-- Sends a request through the stage: the outcome, and how many taps have run. -/
def call (hook : Hook) (steps : List Plugin) (request : Argument) :
    Host → (Except Failure Outcome × Nat) × Host :=
  run steps request hook.taps 0

/-- The text of a stage. -/
def text (hook : Hook) : String :=
  let taps := String.intercalate ", " (hook.taps.map fun t => Text.quoted t.name)
  s!"AsyncHook({hook.name}, taps=[{taps}])"

end Hook

/-- The stages of a pipeline, by name. -/
abbrev Hooks := List Hook

namespace Hooks

/-- The stage of a name. -/
def find? (hooks : Hooks) (name : String) : Option Hook :=
  List.find? (fun h => h.name == name) hooks

/-- The stage of a name, which must be there. -/
def get (hooks : Hooks) (name : String) : Except Failure Hook :=
  match find? hooks name with
  | some hook => .ok hook
  | none => .error (.missingKey name)

/-- Makes a stage of a name unless there is one. -/
def ensure (hooks : Hooks) (name : String) : Hooks :=
  if (find? hooks name).isSome then hooks else hooks ++ [⟨name, []⟩]

/-- Puts a stage in the place of the one of its name. -/
def replace (hooks : Hooks) (hook : Hook) : Hooks :=
  hooks.map fun h => if h.name == hook.name then hook else h

/-- Registers a tap on the stage of a name, which is made if it is not there. -/
def tap (hooks : Hooks) (name : String) (t : Tap) : Action Hooks := do
  let hooks := ensure hooks name
  match find? hooks name with
  | none => pure hooks
  | some hook => do
    let hook ← hook.tap t
    pure (replace hooks hook)

/-- Registers the step of a number on its source stage, and makes its target stage. -/
def applyStep (hooks : Hooks) (number : Nat) (p : Plugin) : Action Hooks :=
  tap (ensure hooks p.target) p.source ⟨Failure.stepName, .step number⟩

end Hooks

end RequirePath
