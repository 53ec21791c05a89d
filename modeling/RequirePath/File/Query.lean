import RequirePath.File.Resolve

/-! Questions about paths. A path that leads nowhere is answered with no; any other refusal of the system is
an answer of its own, or also a no where the question is put quietly. -/

namespace RequirePath.FileSystem

/-- The refusals that mean that a path leads nowhere. -/
def isAbsence : Errno → Bool
  | .noEntry | .notDirectory | .tooManyLinks => true
  | _ => false

/-- Whether a path leads to a node of a kind. -/
def probe (fs : FileSystem) (cwd : Location) (kind : Node → Bool) (path : Pathname) : Except Errno Bool :=
  if Pathname.holdsNul path then .ok false
  else
    match fs.status cwd path with
    | .ok node => .ok (kind node)
    | .error e => if isAbsence e then .ok false else .error e

/-- Whether a path leads to a node. -/
def isThere (fs : FileSystem) (cwd : Location) (path : Pathname) : Except Errno Bool :=
  fs.probe cwd (fun _ => true) path

/-- Whether a path leads to a node, as far as that can be found out. -/
def exists? (fs : FileSystem) (cwd : Location) (path : Pathname) : Bool :=
  !Pathname.holdsNul path && (fs.status cwd path).isOk

/-- Whether a path leads to a directory, as far as that can be found out. -/
def directory? (fs : FileSystem) (cwd : Location) (path : Pathname) : Bool :=
  !Pathname.holdsNul path &&
    match fs.status cwd path with
    | .ok node => node.isDirectory
    | .error _ => false

/-- Whether what a path leads to admits an access, as far as that can be found out. -/
def permits (fs : FileSystem) (cwd : Location) (path : Pathname) (access : Node → Bool) : Bool :=
  match fs.status cwd path with
  | .ok node => access node
  | .error _ => false

/-- The time of what a path leads to, in seconds, if it can be found out. -/
def modified? (fs : FileSystem) (cwd : Location) (path : Pathname) : Option Dyadic :=
  match fs.status cwd path with
  | .ok node => some node.modified.inSeconds
  | .error _ => none

end RequirePath.FileSystem
