import RequirePath.Text.Line
import RequirePath.Text.Quoted
import RequirePath.Text.Utf8

/-! Path strings. A path is a string of bytes, as the file system compares it; text becomes a path through
UTF-8, and a path need not be text. -/

namespace RequirePath

/-- A path as it is spelled. -/
abbrev Pathname := List UInt8

/-- The name of one entry of a directory. -/
abbrev Filename := List UInt8

/-- The byte between the names of a path. -/
def slash : UInt8 := 47

/-- The byte that ends a name for the system, so no name holds it. -/
def nul : UInt8 := 0

namespace Pathname

/-- The path that a text spells. -/
def ofText (s : String) : Pathname :=
  Utf8.encode s.toList

/-- The text that a path spells, if it is text. -/
def text? (path : Pathname) : Option String :=
  (Utf8.decode? path).map String.ofList

/-- The text that shows a path in a message. -/
def display (path : Pathname) : String :=
  String.ofList (Utf8.decodeLossy path)

/-- A path that a text spells. -/
def isText (path : Pathname) : Bool :=
  (Utf8.decode? path).isSome

/-- The text that shows a path between quotes. -/
def quoted (path : Pathname) : String :=
  Text.quoted (display path)

/-- A path that starts at the root. -/
def isAbsolute (path : Pathname) : Bool :=
  path.head? == some slash

/-- A path that the system refuses because of a byte no name may hold. -/
def holdsNul (path : Pathname) : Bool :=
  path.contains nul

/-- The path of an entry of a directory: a slash stands between them, whatever the directory ends in. -/
def child (directory : Pathname) (name : Filename) : Pathname :=
  directory ++ slash :: name

/-- The path of an entry of a directory, with no second slash after a directory that ends in one. -/
def tidyChild (directory : Pathname) (name : Filename) : Pathname :=
  if directory.getLast? == some slash then directory ++ name else child directory name

/-- A path that ends in one of several endings. -/
def endsInAny (path : Pathname) (endings : List Pathname) : Bool :=
  endings.any (·.isSuffixOf path)

end Pathname

end RequirePath
