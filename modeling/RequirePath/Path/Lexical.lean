import RequirePath.Path.Basic

/-! Paths by their spelling alone: an anchor and names, without empty names and single dots. Joining and
the removal of double dots never look at a file system. -/

namespace RequirePath

/-- Where a path starts. Exactly two slashes at the front are kept apart from one; more count as one. -/
inductive Anchor
  | relative
  | root
  | doubleRoot
  deriving DecidableEq, Repr

/-- The spelling of an anchor. -/
def Anchor.spelling : Anchor → Pathname
  | .relative => []
  | .root => [slash]
  | .doubleRoot => [slash, slash]

/-- The anchor of a path. -/
def Anchor.of : Pathname → Anchor
  | a :: b :: c :: _ =>
    if a != slash then .relative
    else if b != slash then .root
    else if c != slash then .doubleRoot
    else .root
  | [a, b] => if a != slash then .relative else if b != slash then .root else .doubleRoot
  | [a] => if a != slash then .relative else .root
  | [] => .relative

/-- The name of a directory in itself. -/
def dot : Filename := [46]

/-- The name of a directory's parent. -/
def dotDot : Filename := [46, 46]

/-- A path by its spelling: an anchor and names that are neither empty nor a single dot. -/
structure LexicalPath where
  anchor : Anchor
  names : List Filename
  deriving DecidableEq, Repr

namespace LexicalPath

/-- The names between the slashes of a path. -/
def namesOf (path : Pathname) : List Filename :=
  (Text.splitAt slash path).filter fun name => !name.isEmpty && name != dot

/-- Reads the spelling of a path. -/
def parse (path : Pathname) : LexicalPath :=
  ⟨Anchor.of path, namesOf path⟩

/-- The path that a text spells. -/
def ofText (s : String) : LexicalPath :=
  parse (Pathname.ofText s)

/-- Names with a slash between them. -/
def joinNames : List Filename → Pathname
  | [] => []
  | [name] => name
  | name :: rest => name ++ slash :: joinNames rest

/-- The spelling of a path; a relative path without names is a single dot. -/
def spelling (p : LexicalPath) : Pathname :=
  match p.anchor, p.names with
  | .relative, [] => dot
  | anchor, names => anchor.spelling ++ joinNames names

/-- A path that starts at the root. -/
def isAbsolute (p : LexicalPath) : Bool :=
  p.anchor != .relative

/-- A path below another one; an absolute path takes the place of the other. -/
def join (p q : LexicalPath) : LexicalPath :=
  if q.isAbsolute then q else ⟨p.anchor, p.names ++ q.names⟩

/-- The last name, empty if there is none. -/
def name (p : LexicalPath) : Filename :=
  p.names.getLast?.getD []

/-- The path without its last name. -/
def parent (p : LexicalPath) : LexicalPath :=
  ⟨p.anchor, p.names.dropLast⟩

/-- Takes one more name after the names `done`, in reverse: a double dot removes the name before it, is
dropped at the root, and is kept at the front of a relative path. -/
def collapseStep (absolute : Bool) (done : List Filename) (name : Filename) : List Filename :=
  if name != dotDot then name :: done
  else
    match done with
    | [] => if absolute then [] else [dotDot]
    | last :: before => if last == dotDot then dotDot :: last :: before else before

/-- The path with its double dots removed by spelling. -/
def collapse (p : LexicalPath) : LexicalPath :=
  ⟨p.anchor, (p.names.foldl (collapseStep p.isAbsolute) []).reverse⟩

/-- The absolute path that a path means in a working directory, without double dots. -/
def absolute (workingDirectory : LexicalPath) (p : LexicalPath) : LexicalPath :=
  collapse (join workingDirectory p)

/-- The text that shows a path in a message. -/
def display (p : LexicalPath) : String :=
  Pathname.display p.spelling

end LexicalPath

end RequirePath
