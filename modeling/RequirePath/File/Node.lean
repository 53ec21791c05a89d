import RequirePath.File.Timestamp
import RequirePath.Path.Basic

/-! What a file system holds at one place. -/

namespace RequirePath

/-- The kinds of things that a file system holds, with their contents. -/
inductive Content
  | file (bytes : List UInt8)
  | directory
  | link (target : Pathname)
  | fifo
  deriving DecidableEq, Repr

/-- A thing in a file system: its content, the permission bits, and the time of its last change. -/
structure Node where
  content : Content
  mode : Nat
  modified : Timestamp
  deriving DecidableEq, Repr

namespace Node

/-- The owner may read it. -/
def readable (n : Node) : Bool := n.mode / 256 % 2 == 1

/-- The owner may write it. -/
def writable (n : Node) : Bool := n.mode / 128 % 2 == 1

/-- The owner may run it, or look up names in it. -/
def searchable (n : Node) : Bool := n.mode / 64 % 2 == 1

/-- It is a directory. -/
def isDirectory (n : Node) : Bool := n.content == .directory

/-- It is a regular file. -/
def isFile (n : Node) : Bool :=
  match n.content with
  | .file _ => true
  | _ => false

/-- It is a symbolic link. -/
def isLink (n : Node) : Bool :=
  match n.content with
  | .link _ => true
  | _ => false

/-- The mode of new directories. -/
def directoryMode : Nat := 0o755

/-- The mode of new files. -/
def fileMode : Nat := 0o644

/-- The mode of new files that only their owner may see. -/
def privateMode : Nat := 0o600

/-- The mode of links. -/
def linkMode : Nat := 0o777

/-- A new directory. -/
def newDirectory (now : Timestamp) : Node := ⟨.directory, directoryMode, now⟩

/-- A new file. -/
def newFile (bytes : List UInt8) (now : Timestamp) : Node := ⟨.file bytes, fileMode, now⟩

end Node

end RequirePath
