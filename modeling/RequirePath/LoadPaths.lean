import RequirePath.Config.Basic
import RequirePath.File.Action

/-! The load paths of a project: the directories that the project's own tools search, one on each line that
the load-path command prints. The command differs between Rails projects and others. -/

namespace RequirePath.LoadPaths

/-- The script that prints the load paths of a Rails project, which has asset paths too. -/
def railsScript : String :=
  "puts (Rails.configuration.respond_to?(:assets) ? " ++
    "(Rails.configuration.assets.paths + Opal.paths).uniq : " ++ "Opal.paths); exit 0"

/-- The script that prints the load paths of any other project. -/
def plainScript : String :=
  "Bundler.require; puts Opal.paths; exit 0"

/-- The command that prints the load paths. -/
def command (rails : Bool) : List String :=
  if rails then ["bundle", "exec", "rails", "runner", railsScript]
  else ["bundle", "exec", "ruby", "-e", plainScript]

/-- The lines of the command's output. One empty line at the end is dropped, so that output that ends in a
line end has as many lines as line ends. -/
def parseOutput (output : List Char) : List (List Char) :=
  let lines := Text.splitAt '\n' output
  if lines.getLast? = some [] then lines.dropLast else lines

/-- A failure of the command. -/
def toolFailure {α : Type} (message : String) (command : List String) (exitCode : Option Int)
    (stderr : String) : Except Failure α :=
  .error (.tool ⟨message, command, exitCode, stderr⟩)

/-- The load paths that a run of the command gives. -/
def ofRun (command : List String) : ToolRun → Except Failure (List Pathname)
  | .cannotStart errno =>
    let program := command.headD ""
    toolFailure (s!"Could not run {program}: " ++ errno.message (Text.quoted program)) command none ""
  | .finished stdout stderr exitCode =>
    let shown := Utf8.decodeLossy stderr
    let stderr := String.ofList shown
    if exitCode ≠ 0 then
      toolFailure
        (s!"Load path command failed with exit code {exitCode}: " ++ String.ofList (Text.trim shown))
        command (some exitCode) stderr
    else
      match Utf8.decode stdout with
      | .error fault =>
        toolFailure ("Load path command printed undecodable output: " ++ fault.message) command
          (some exitCode) stderr
      | .ok output => .ok ((parseOutput output).map Utf8.encode)

/-- The part of the program that logs. -/
def part : String := "load_paths"

/-- Asks whether the project is a Rails project. -/
def isRailsProject (c : Config) : Action Bool :=
  Action.isThere c.railsMarkerPath

/-- Runs the command in the project and gives the load paths in the order of their search. -/
def enumerate (c : Config) : Action (List Pathname) := do
  let cmd := command (← isRailsProject c)
  let shown := String.intercalate " " (cmd.take 4)
  Action.log part .info s!"[owl:load_paths] running: {shown} ..."
  Action.change fun h => h.note (.ranTool cmd c.workingTree)
  let found ← Action.lookOrFail fun h => ofRun cmd h.tool
  Action.log part .debug s!"[owl:load_paths] {found.length} load paths"
  pure found

end RequirePath.LoadPaths
