import RequirePath.File.Build

/-! File systems as listings, one line for each node: its kind, its permission bits, the time of its last
change, its path, and the path that it links to, with a tab between them. The bytes of files are not listed.
Beside that, what has to be done to a listed file system to make another one of it. -/

namespace RequirePath

namespace Listing

/-- A line of a listing. -/
structure Entry where
  path : Pathname
  node : Node
  deriving DecidableEq, Repr

/-- The number that octal digits write. -/
def octalValue (digits : List Char) : Nat :=
  digits.foldl (fun n c => n * 8 + (c.toNat - '0'.toNat)) 0

/-- A time in seconds with a fraction of which nine digits count. -/
def timestamp (field : List Char) : Timestamp :=
  let fraction := (field.dropWhile (· != '.')).drop 1
  ⟨Text.digitsValue (field.takeWhile (· != '.')), Text.digitsValue ((fraction ++ List.replicate 9 '0').take 9)⟩

/-- The content that a line tells of: files are listed without their bytes. -/
def content? (kind : List Char) (target : Pathname) : Option Content :=
  match kind with
  | ['f'] => some (.file [])
  | ['d'] => some .directory
  | ['l'] => some (.link target)
  | ['p'] => some .fifo
  | _ => none

/-- Reads a line; a line about anything but files, directories, links and pipes gives nothing. -/
def entry? (line : List Char) : Option Entry :=
  match Text.splitAt '\t' line with
  | kind :: mode :: time :: path :: target =>
    (content? kind (Utf8.encode target.flatten)).map fun content =>
      ⟨Utf8.encode path, content, octalValue mode, timestamp time⟩
  | _ => none

/-- Reads a listing. -/
def entries (text : List Char) : List Entry :=
  (Text.splitAt '\n' text).filterMap entry?

/-- The newest of the times in a listing. -/
def newest (entries : List Entry) : Timestamp :=
  entries.foldl (fun t e =>
    let u := e.node.modified
    if t.seconds < u.seconds || (t.seconds == u.seconds && t.nanoseconds < u.nanoseconds) then u else t) ⟨0, 0⟩

/-- The file system of a listing. -/
def build (entries : List Entry) : FileSystem :=
  entries.foldl (fun fs e => (fs.install e.path e.node).amend e.path false fun _ => e.node)
    (FileSystem.empty ⟨0, 0⟩)

end Listing

/-- One thing to do to the files of a machine. -/
inductive Edit
  | removeDirectory (path : Pathname)
  | removeFile (path : Pathname)
  | makeDirectory (path : Pathname)
  | write (path : Pathname) (bytes : List UInt8)
  deriving DecidableEq, Repr

namespace FileSystem

/-- The edit that takes away a node which is gone or has become something else. -/
def removal? (new : FileSystem) (e : Location × Node) : Option Edit :=
  let stays := (new.node? e.1).any fun n => n.isDirectory == e.2.isDirectory && n.isFile == e.2.isFile
  if stays then none
  else some (if e.2.isDirectory then .removeDirectory (spell e.1) else .removeFile (spell e.1))

/-- The edit that makes a node which is new or has other bytes. -/
def making? (old : FileSystem) (e : Location × Node) : Option Edit :=
  if (old.node? e.1).map Node.content == some e.2.content then none
  else
    match e.2.content with
    | .directory => some (.makeDirectory (spell e.1))
    | .file bytes => some (.write (spell e.1) bytes)
    | _ => none

/-- The edits that make the second file system of the first one: the deepest nodes are removed first, and
made last. -/
def edits (old new : FileSystem) : List Edit :=
  let deepFirst (fs : FileSystem) := fs.nodes.mergeSort fun a b => b.1.length ≤ a.1.length
  (deepFirst old).filterMap (removal? new) ++ (deepFirst new).reverse.filterMap (making? old)

end FileSystem

end RequirePath
