import RequirePath.Command.Options
import RequirePath.Text.Line

/-! Help texts of commands: usage, description, options and subcommands, broken at words to fit a line. -/

namespace RequirePath.Command

/-- What the help of a command tells. -/
structure Manual where
  name : String
  usage : String
  paragraphs : List String
  options : List OptionSpec
  commands : List (String × String) := []

namespace Manual

/-- The width of help texts. -/
def width : Nat := 78

/-- The words of a text. -/
def words (text : String) : List String :=
  ((Text.splitAt ' ' text.toList).filter fun w => !w.isEmpty).map String.ofList

/-- Puts words on lines that are at most `limit` wide; a word that is wider has a line of its own. -/
def fillLines (limit : Nat) (line : String) : List String → List String
  | [] => if line.isEmpty then [] else [line]
  | word :: rest =>
    if line.isEmpty then fillLines limit word rest
    else if line.length + 1 + word.length ≤ limit then fillLines limit (line ++ " " ++ word) rest
    else line :: fillLines limit word rest

/-- A number of blanks. -/
def blanks (n : Nat) : String := String.ofList (List.replicate n ' ')

/-- The first words of a text up to one that ends in a full stop. -/
def firstSentence : List String → List String
  | [] => []
  | word :: rest => if word.toList.getLast? == some '.' then [word] else word :: firstSentence rest

/-- The line that a list of commands shows for one. -/
def summary (text : String) : String :=
  String.intercalate " " (firstSentence (words text))

/-- The spelling of an option in a list of options. -/
def spelling (o : OptionSpec) : String :=
  (match o.short with
    | some c => String.ofList ['-', c, ',', ' ']
    | none => "") ++ o.long ++
  (match o.value with
    | some v => " " ++ v
    | none => "")

/-- Lines of terms and their meanings, the meanings in a column of their own. -/
def definitions (rows : List (String × String)) : List String :=
  let first := (rows.map fun r => r.1.length).foldl max 0 + 2
  rows.flatMap fun r =>
    match fillLines (width - first - 2) "" (words r.2) with
    | [] => [blanks 2 ++ r.1]
    | line :: more =>
      (blanks 2 ++ r.1 ++ blanks (first - r.1.length) ++ line) :: more.map fun l => blanks (first + 2) ++ l

/-- The lines of the help of a command. -/
def lines (m : Manual) : List String :=
  [s!"Usage: {m.name} {m.usage}"] ++
    m.paragraphs.flatMap (fun p => "" :: (fillLines (width - 2) "" (words p)).map fun l => blanks 2 ++ l) ++
    ["", "Options:"] ++ definitions (m.options.map fun o => (spelling o, o.help)) ++
    (if m.commands.isEmpty then []
      else ["", "Commands:"] ++ definitions (m.commands.map fun c => (c.1, summary c.2)))

end Manual

/-- The option that every command has. -/
def helpOption : OptionSpec := ⟨none, "--help", none, "Show this message and exit."⟩

/-- The description of the command that resolves. -/
def resolveText : String := "Resolve SPECIFIER (e.g. ./foo.rb) to an absolute path."

/-- The description of the command that lists load paths. -/
def loadPathsText : String := "List the cached load paths in search order."

/-- The first sentence about the commands for the cache. -/
def cacheText : String := "Manage the load-path cache."

/-- The description of the command that removes the cache. -/
def cleanText : String := "Delete the cache directory. It is recreated on next use."

/-- The description of the command that shows where the cache is. -/
def pathText : String := "Show the cache file path."

/-- The description of the command that makes the cache anew. -/
def rebuildText : String := "Re-enumerate load paths and re-index them now."

/-- The description of the command that describes the cache. -/
def statusText : String := "Show whether the cache is fresh, without rebuilding it."

/-- The manual of the whole program. -/
def programManual : Manual where
  name := "cli"
  usage := "[OPTIONS] [COMMAND] [ARGS]..."
  paragraphs := ["owl-resolver - Opal load-path resolution with a persistent cache."]
  options :=
    [⟨none, "--version", none, "Show the version and exit."⟩,
      ⟨none, "--project-root", some "DIRECTORY",
        "Project directory holding Gemfile and Gemfile.lock (default: current directory)"⟩,
      ⟨none, "--log-level", some "TEXT", "Log level (default: OWL_LOG_LEVEL or WARNING)"⟩,
      ⟨none, "--log-file", some "TEXT", "Append JSONL log records to this file"⟩,
      helpOption]
  commands := [("cache", cacheText), ("load-paths", loadPathsText), ("resolve", resolveText)]

/-- The manual of the command that resolves. -/
def resolveManual : Manual where
  name := "cli resolve"
  usage := "[OPTIONS] SPECIFIER"
  paragraphs := [resolveText]
  options :=
    [⟨none, "--from", some "TEXT", "Directory of the requiring file (default: current directory)"⟩,
      ⟨some 'v', "--verbose", none, "Show which lookup tier matched"⟩,
      helpOption]

/-- The manual of a command without options of its own. -/
def plainManual (name text : String) : Manual where
  name := name
  usage := "[OPTIONS]"
  paragraphs := [text]
  options := [helpOption]

/-- The manual of the command that lists load paths. -/
def loadPathsManual : Manual := plainManual "cli load-paths" loadPathsText

/-- The manual of the commands for the cache. -/
def cacheManual : Manual where
  name := "cli cache"
  usage := "[OPTIONS] [COMMAND] [ARGS]..."
  paragraphs :=
    [cacheText,
      "The cache stores the Opal load paths and the files below them at " ++
        ".owl_cache/load_paths.json. It is rebuilt when Gemfile.lock changes."]
  options := [helpOption]
  commands := [("clean", cleanText), ("path", pathText), ("rebuild", rebuildText), ("status", statusText)]

/-- The manual of the command that removes the cache. -/
def cleanManual : Manual where
  name := "cli cache clean"
  usage := "[OPTIONS]"
  paragraphs := [cleanText]
  options := [⟨some 'f', "--force", none, "Skip confirmation prompt"⟩, helpOption]

end RequirePath.Command
