import RequirePath.Cache.Store
import RequirePath.Command.Session
import RequirePath.Config.Load
import RequirePath.Log.Setup
import RequirePath.Resolve.Resolver

/-! The program's commands: resolve a specifier, list the load paths, and show, describe, make anew or remove
the cache. -/

namespace RequirePath.Command

open Script

/-- The version of the program. -/
def versionLine : String := "owl-resolver, version 0.1.0"

/-- Reads the words of a command. An option that only shows something is answered at once; words that do not
fit end the command. -/
def read (m : Manual) (mixed : Bool) (words : List String) : Script Parsed := do
  match parse m.options mixed words with
  | none => exit failureCode
  | some p =>
    match p.options.find? fun o => o.1 == "--help" || o.1 == "--version" with
    | some ("--version", _) => do
      line versionLine
      exit 0
    | some _ => do
      help m
      exit 0
    | none => pure p

/-- Reads the words of a command that takes no arguments. -/
def readBare (m : Manual) (words : List String) : Script Parsed := do
  let p ← read m true words
  if p.arguments.isEmpty then pure p else exit failureCode

/-- A resolver over the cache of a project. -/
def loadResolver (c : Config) : Script Resolver := do
  let l ← performReporting (Cache.loadOrRebuild c)
  pure ⟨l, c, Tier.standard⟩

/-- Resolves a specifier and prints its path. -/
def resolve (c : Config) (words : List String) : Script Unit := do
  let p ← read resolveManual true words
  match p.arguments with
  | [specifier] => do
    let r ← loadResolver c
    let directory ← perform <| Action.look fun h =>
      match p.value? "--from" with
      | some "" | none => c.workingTree
      | some d => (LexicalPath.absolute h.workingPath (LexicalPath.ofText d)).spelling
    match ← perform (r.resolve (some directory) (Pathname.ofText specifier)) with
    | none => do
      markup ("[yellow]Not found:[/yellow] " ++ Markup.escapeText specifier)
      exit 1
    | some (path, tier) => do
      line (Pathname.display path)
      if p.has "--verbose" then markup s!"[dim]matched by: {tier}[/dim]" else pure ()
  | _ => exit failureCode

/-- Lists the load paths. -/
def loadPaths (c : Config) (words : List String) : Script Unit := do
  let _ ← readBare loadPathsManual words
  let r ← loadResolver c
  r.loaded.loadPaths.forM fun p => line (Pathname.display p)

/-- Shows where the cache file is. -/
def cachePath (c : Config) (words : List String) : Script Unit := do
  let _ ← readBare (plainManual "cli cache path" pathText) words
  line c.cacheFilePath.display
  if ← perform (Action.isThere c.cacheFilePath) then markup "[dim]Status: exists[/dim]"
  else markup "[dim]Status: not created yet[/dim]"

/-- A signed number as a word of a number of bits holds it. -/
def inWord (bits : Nat) (n : Int) : Int :=
  Int.bmod n (1 <<< bits)

/-- The number of seconds before a time at which its clock could have been set back. -/
def setBackSpan : Int := 86400

/-- The years of a clock are counted from this one. -/
def clockYear : Int := 1900

/-- The text of the time of a second. The clock is read there and, since it could have been set back, a day
earlier; at both it must show a year that a date can have. -/
def secondText (second : Int) : Except Failure String := do
  if inWord 64 second != second then .error (.overflow "timestamp out of range for platform time_t")
  else
    let shown ← read second
    let _ ← read (second - setBackSpan)
    pure shown.text
where
  /-- Reads the clock at a second. -/
  read (moment : Int) : Except Failure Calendar.DateTime :=
    let d := Calendar.ofSecond moment
    if inWord 32 (d.year - clockYear) != d.year - clockYear then .error (.system .overflow "")
    else
      let year := inWord 32 d.year
      if Calendar.isShownYear year then .ok d else .error (.badValue s!"year {year} is out of range")

/-- The text of a time, if there is one. -/
def timeCell (time : Option Dyadic) : Script String :=
  match time with
  | none => pure "-"
  | some t =>
    match secondText (Timestamp.shownSecond t) with
    | .ok text => pure text
    | .error e => throw (.failed e)

/-- The word for a truth value. -/
def yesNo (b : Bool) : String := if b then "yes" else "no"

/-- The cells of a row. -/
def row (label text : String) : Script Table.Row :=
  match Markup.render label.toList, Markup.render text.toList with
  | .ok a, .ok b => pure (a, b)
  | .error e, _ => throw (.failed e)
  | _, .error e => throw (.failed e)

/-- Describes the cache file. -/
def cacheStatus (c : Config) (words : List String) : Script Unit := do
  let _ ← readBare (plainManual "cli cache status" statusText) words
  let r ← perform (Cache.status c)
  let gemfile := Pathname.display c.gemfile
  let lock := Pathname.display c.gemfileLock
  let cacheTime ← timeCell r.cacheTime
  let lockTime ← timeCell r.lockTime
  let gemfileTime ← timeCell r.gemfileTime
  let counts := match r.loadPathCount, r.entryCount with
    | some n, some m => [("Load paths", toString n), ("Entries", toString m)]
    | _, _ => []
  let rows ← ([("Cache file", Markup.escapeText r.cacheFile.display), ("Exists", yesNo r.isThere),
    ("Readable", yesNo r.readable), ("Cache modified", cacheTime), (lock ++ " modified", lockTime),
    (gemfile ++ " modified", gemfileTime)] ++ counts).mapM fun p => row p.1 p.2
  (Table.lines "Load Path Cache".toList rows).forM fun l => put (l ++ ['\n'])
  if r.isStale then markup "[yellow]Stale:[/yellow] the cache will be rebuilt on next use"
  else markup "[green]Fresh[/green]"
  if r.lockIsStale then
    markup (s!"[yellow]Warning:[/yellow] {gemfile} is newer than {lock}, " ++
      "run 'bundle install' or 'bundle update'")
  else pure ()

/-- Makes the cache anew. -/
def cacheRebuild (c : Config) (words : List String) : Script Unit := do
  let _ ← readBare (plainManual "cli cache rebuild" rebuildText) words
  let l ← performReporting (Cache.rebuild c)
  markup s!"[green]Cached {l.loadPaths.length} load paths, {l.entries.length} entries[/green]"

/-- A failure that is a refusal of the system. -/
def isRefusal : Failure → Bool
  | .system _ _ | .linkAsTree => true
  | _ => false

/-- Removes the cache directory, once the user agrees. -/
def cacheClean (c : Config) (words : List String) : Script Unit := do
  let p ← readBare cleanManual words
  if !(← perform (Action.isThere c.cacheDirPath)) then
    markup "[dim]Cache directory does not exist - nothing to clean.[/dim]"
  else
    let typed := (← get).typed
    let agreed ← if p.has "--force" then pure true else confirm s!"Delete {c.cacheDirPath.display}?" typed
    if !agreed then markup "[yellow]Aborted.[/yellow]"
    else
      match ← attempt (Cache.clear c) with
      | .ok _ => markup "[green]Cache removed[/green]"
      | .error e =>
        if isRefusal e then do
          markup ("[red]Error cleaning cache:[/red] " ++ Markup.escapeText e.message)
          exit 1
        else throw (.failed e)

/-- A command that takes the configuration and its words. -/
abbrev Subcommand := Config → List String → Script Unit

/-- The commands for the cache. -/
def cacheCommand? (name : String) : Option Subcommand :=
  match name with
  | "path" => some cachePath
  | "status" => some cacheStatus
  | "rebuild" => some cacheRebuild
  | "clean" => some cacheClean
  | _ => none

/-- Finds the command of a name. A name that is an option after all is read as one. -/
def find (m : Manual) (table : String → Option Subcommand) (name : String) (words : List String) :
    Script Subcommand := do
  match table name with
  | some command => pure command
  | none => do
    if isOption name then
      let _ ← read m false (name :: words)
    exit failureCode

/-- The commands for the cache; without a name they are listed. -/
def cache (c : Config) (words : List String) : Script Unit := do
  let p ← read cacheManual false words
  match p.arguments with
  | [] => do
    line ""
    help cacheManual
    exit 0
  | name :: rest => do
    let command ← find cacheManual cacheCommand? name rest
    command c rest

/-- The commands of the program. -/
def command? (name : String) : Option Subcommand :=
  match name with
  | "resolve" => some resolve
  | "load-paths" => some loadPaths
  | "cache" => some cache
  | _ => none

/-- Ends the command if the project root is a file or a directory that may not be read. -/
def checkRoot (root : Option String) : Script Unit := do
  match root with
  | none => pure ()
  | some text =>
    let path := Pathname.ofText text
    if Pathname.holdsNul path then throw (.failed .nulByte)
    else
      let fits ← perform <| Action.look fun h =>
        match h.files.status h.workingDirectory path with
        | .ok node => !node.isFile && node.readable
        | .error _ => true
      if fits then pure () else exit failureCode

/-- The settings that options give. -/
def settingsOf (p : Parsed) : Settings :=
  let given (option field : String) : Settings :=
    match p.value? option with
    | some v => [(field, .text v)]
    | none => []
  given "--log-level" "log_level" ++ given "--log-file" "log_path"

/-- Loads the configuration and sets up logging. -/
def begin (p : Parsed) : Script Config := do
  let c ← performReporting (Config.load (p.value? "--project-root") none (settingsOf p))
  perform (Log.setUp c.logPath c.logLevel)
  pure c

/-- Runs the program on the words of its command line. -/
def program (words : List String) : Script Unit := do
  let p ← read programManual false words
  checkRoot (p.value? "--project-root")
  match p.arguments with
  | [] => do
    let _ ← begin p
    help programManual
  | name :: rest => do
    let command ← find programManual command? name rest
    let c ← begin p
    command c rest

/-- How a run of the program ends: its code, what it has printed, the failure that has ended it, if it was
one without a report, and whether it waits for an answer. -/
structure Result where
  code : Nat
  printed : List Char
  failure : Option Failure
  waits : Bool
  host : Host

/-- The lines that are typed. -/
def typedLines (stdin : String) : List (List Char) :=
  let lines := Text.splitAt '\n' (Text.unifyNewlines stdin.toList)
  if lines.getLast? = some [] then lines.dropLast else lines

/-- Runs the program on a machine. -/
def run (words : List String) (stdin : String) (host : Host) : Result :=
  let (result, s) := (program words).run { host, typed := typedLines stdin }
  match result with
  | .ok () => ⟨0, s.printed, none, false, s.host⟩
  | .error (.exit code) => ⟨code, s.printed, none, false, s.host⟩
  | .error (.failed e) => ⟨1, s.printed, some e, false, s.host⟩
  | .error .unanswered => ⟨1, s.printed, none, true, s.host⟩

end RequirePath.Command
