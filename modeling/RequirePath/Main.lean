import RequirePath.Command.Run
import RequirePath.File.Listing

/-! The command line. The files of the machine are those of a listing, which an environment variable names,
and so is what the load-path command has printed. The program runs on them, and what it has changed is then
written to the machine. -/

namespace RequirePath.CommandLine

/-- The variable that names the listing of the machine's files. -/
def listingVariable : String := "OWL_FILE_LISTING"

/-- The variable that names the file with what the load-path command has printed. -/
def toolVariable : String := "OWL_TOOL_OUTPUT"

/-- The bytes of a file of the machine; none if it cannot be read. -/
def bytesOf (path : String) : IO (List UInt8) := do
  try return (← IO.FS.readBinFile path).toList
  catch _ => return []

/-- The bytes of the file that a variable names, if it is set. -/
def bytesOfVariable (name : String) : IO (Option (List UInt8)) := do
  match ← IO.getEnv name with
  | none => return none
  | some path => return some (← bytesOf path)

/-- A line of a listing, with the bytes of its file. -/
def fill (e : Listing.Entry) : IO Listing.Entry := do
  if e.node.isFile then
    return { e with node := { e.node with content := .file (← bytesOf (Pathname.display e.path)) } }
  else return e

/-- The variables that the program looks at. -/
def environment : IO (List (String × String)) := do
  let values ← Config.environmentFields.mapM fun v => IO.getEnv v.1
  return (Config.environmentFields.zip values).filterMap fun (v, value) => value.map (v.1, ·)

/-- The machine that the program runs on. -/
def machine : IO Host := do
  let listing := (← bytesOfVariable listingVariable).getD []
  let entries ← (Listing.entries (Utf8.decodeLossy listing)).mapM fill
  let tool ← bytesOfVariable toolVariable
  let directory := toString (← IO.currentDir)
  return {
    files := Listing.build entries
    workingDirectory := (LexicalPath.ofText directory).names.reverse
    now := Listing.newest entries
    environment := ← environment
    tool := (tool.map fun out => .finished out [] 0).getD (.cannotStart .noEntry) }

/-- Does one thing to the files of the machine. -/
def perform : Edit → IO Unit
  | .removeDirectory path => IO.FS.removeDir (Pathname.display path)
  | .removeFile path => IO.FS.removeFile (Pathname.display path)
  | .makeDirectory path => IO.FS.createDirAll (Pathname.display path)
  | .write path bytes => IO.FS.writeBinFile (Pathname.display path) ⟨bytes.toArray⟩

/-- Runs the program, and reads a line whenever a question waits for one. The first `shown` characters, and
what is typed, can be seen already. -/
partial def converse (words : List String) (host : Host) (typed : String) (shown : Nat) :
    IO Command.Result := do
  let r := Command.run words typed host
  (← IO.getStdout).putStr (String.ofList (r.printed.drop shown))
  (← IO.getStdout).flush
  let line ← if r.waits then (← IO.getStdin).getLine else pure ""
  if line.isEmpty then return r
  else converse words host (typed ++ line) (r.printed.length + line.length)

/-- Tells what the user should know beside what is printed. -/
def tell (text : String) : IO Unit := do
  (← IO.getStderr).putStrLn text

end RequirePath.CommandLine

open RequirePath in
/-- Runs the program on the words of its command line, and writes what it has changed. -/
def main (words : List String) : IO UInt32 := do
  let host ← CommandLine.machine
  let r ← CommandLine.converse words host "" 0
  for event in r.host.events do
    if let .warned text := event then CommandLine.tell text
  if let some e := r.failure then CommandLine.tell e.message
  for edit in host.files.edits r.host.files do
    CommandLine.perform edit
  return r.code.toUInt32
