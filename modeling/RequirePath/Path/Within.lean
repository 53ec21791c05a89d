import RequirePath.Path.Basic

/-! Containment of directories, decided on the spelling of paths: slashes at the end of the outer path do
not count, and a name must not go on past the outer path. -/

namespace RequirePath.Pathname

/-- A non-empty path without the slashes at its end; a path made of slashes only is the root. -/
def dropEndSlashes (root : Pathname) : Pathname :=
  match Text.dropEndWhile (· == slash) root with
  | [] => [slash]
  | trimmed => trimmed

/-- The spelling that starts every path below a directory. -/
def stem (root : Pathname) : Pathname :=
  if root.getLast? == some slash then root else root ++ [slash]

/-- A path that is a directory itself or lies below it; nothing lies in an empty path. -/
def isWithin (path root : Pathname) : Bool :=
  if root.isEmpty then false
  else
    let outer := dropEndSlashes root
    path == outer || (stem outer).isPrefixOf path

/-- A path that lies in one of several directories. -/
def isWithinAny (path : Pathname) (roots : List Pathname) : Bool :=
  roots.any (isWithin path)

end RequirePath.Pathname
