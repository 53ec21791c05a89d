import RequirePath.File.Query
import RequirePath.Path.Within

/-! The index of a directory: the paths of the source files below it, in the order of a walk that takes the
entries of a directory by name and the contents of a subdirectory in its place. Links are followed, except
into a directory that the walk is inside of. Directories of the working tree can be left out. The walk keeps
a stack of the directories it is inside of and the entries that are left in each. -/

namespace RequirePath.Walk

/-- Which directories of the working tree a walk leaves out: all but those in the allowed zones. -/
structure Restriction where
  active : Bool
  workingTree : Pathname
  allowedZones : List Pathname

/-- A directory is left out. -/
def Restriction.excludes (r : Restriction) (directory : Pathname) : Bool :=
  r.active && Pathname.isWithin directory r.workingTree && !Pathname.isWithinAny directory r.allowedZones

/-- What a walk passes over. -/
inductive Note
  | excluded (path : Pathname)
  | unreadable (path : Pathname) (errno : Errno)
  | skipped (path : Pathname) (errno : Errno) (subject : Pathname)
  | cycle (path : Pathname)
  deriving DecidableEq, Repr

/-- The wording of a note. -/
def Note.message : Note → String
  | .excluded path => s!"[owl:index] {Pathname.display path} is inside the working tree, not indexing"
  | .unreadable path errno =>
    s!"[owl:index] skipping unreadable directory {Pathname.display path}: " ++
      errno.message (Pathname.quoted path)
  | .skipped path errno subject =>
    s!"[owl:index] skipping {Pathname.display path}: " ++ errno.message (Pathname.quoted subject)
  | .cycle path => s!"[owl:index] skipping symlink cycle at {Pathname.display path}"

/-- The path that a note is about. -/
def Note.path : Note → Pathname
  | .excluded path | .unreadable path _ | .skipped path _ _ | .cycle path => path

/-- What an entry of a directory is, links followed. -/
inductive Kind
  | directory (place : Location)
  | file
  | other
  deriving DecidableEq, Repr

/-- A directory that the walk is inside of: its path, its place, and the names that are left. -/
structure Frame where
  directory : Pathname
  place : Location
  pending : List Filename

/-- How far a walk has come: the directories it is inside of, the innermost first, and what it has found. -/
structure State where
  frames : List Frame
  entries : List Pathname
  notes : List Note

variable (fs : FileSystem) (cwd : Location) (restriction : Restriction) (suffixes : List Pathname)

/-- What a node of a known place is. -/
def kindAt (place : Location) : Kind :=
  match fs.node? place with
  | some node => if node.isDirectory then .directory place else if node.isFile then .file else .other
  | none => .other

/-- What an entry is. A link that leads nowhere is neither file nor directory. -/
def classify (frame : Frame) (name : Filename) : Except Errno Kind :=
  match fs.node? (name :: frame.place) with
  | none => .ok .other
  | some node =>
    if node.isLink then
      match fs.locate cwd true (Pathname.tidyChild frame.directory name) with
      | .ok place => .ok (kindAt fs place)
      | .error .noEntry => .ok .other
      | .error e => .error e
    else .ok (kindAt fs (name :: frame.place))

/-- The names in a directory, none if it cannot be read, with a note of that. -/
def contents (directory : Pathname) : List Filename × List Note :=
  match fs.list cwd directory with
  | .ok names => (names, [])
  | .error e => ([], [.unreadable directory e])

/-- Goes into a directory. -/
def enter (directory : Pathname) (place : Location) (s : State) : State :=
  let (names, notes) := contents fs cwd directory
  { s with frames := ⟨directory, place, names⟩ :: s.frames, notes := s.notes ++ notes }

/-- Takes the next entry of the innermost directory, or leaves it if none is left. -/
def step (s : State) : State :=
  match s.frames with
  | [] => s
  | frame :: outer =>
    match frame.pending with
    | [] => { s with frames := outer }
    | name :: pending =>
      let s := { s with frames := { frame with pending } :: outer }
      let path := Pathname.child frame.directory name
      match classify fs cwd frame name with
      | .error e => { s with notes := s.notes ++ [.skipped path e (Pathname.tidyChild frame.directory name)] }
      | .ok .other => s
      | .ok .file => if Pathname.endsInAny path suffixes then { s with entries := s.entries ++ [path] } else s
      | .ok (.directory place) =>
        if restriction.excludes path then { s with notes := s.notes ++ [.excluded path] }
        else if s.frames.any fun f => f.place == place then { s with notes := s.notes ++ [.cycle path] }
        else enter fs cwd path place s

/-- Takes steps until the walk is inside of no directory, or the bound is reached. -/
def run : Nat → State → State
  | 0, s => s
  | bound + 1, s => if s.frames.isEmpty then s else run bound (step fs cwd restriction suffixes s)

/-- More steps than any walk takes: it is inside of each directory once at a time, and takes each of its
entries once. -/
def stepBound : Nat :=
  Nat.pow (fs.nodes.length + 2) (fs.nodes.length + 2)

/-- The index of a directory and what was passed over. A path that is not absolute, or that leads to no
directory, has nothing below it. -/
def index (root : Pathname) : List Pathname × List Note :=
  if !Pathname.isAbsolute root then ([], [])
  else if restriction.excludes root then ([], [.excluded root])
  else if Pathname.holdsNul root then ([], [])
  else
    match fs.locate cwd true root with
    | .error _ => ([], [])
    | .ok place =>
      if fs.isDirectoryAt place then
        let s := run fs cwd restriction suffixes (stepBound fs) (enter fs cwd root place ⟨[], [], []⟩)
        (s.entries, s.notes)
      else ([], [])

end RequirePath.Walk
