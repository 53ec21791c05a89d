import RequirePath.File.Change

/-! Removal of what is in a directory, entry by entry in the order of names and each subdirectory after what
is in it. The first refusal ends it and leaves the rest. -/

namespace RequirePath.FileSystem

/-- A refusal to remove an entry, and the name of the entry. -/
abbrev RemovalFault := Errno × Filename

/-- Removes one entry that has nothing in it. -/
def removeEntry (fs : FileSystem) (directory : Location) (name : Filename) (now : Timestamp) :
    FileSystem × Option RemovalFault :=
  if fs.mayRemoveAt (name :: directory) then ((fs.erase (name :: directory)).touch directory now, none)
  else (fs, some (.accessDenied, name))

/-- Removes entries one after another until one is refused. -/
def removeEach (remove : FileSystem → Filename → FileSystem × Option RemovalFault) :
    FileSystem → List Filename → FileSystem × Option RemovalFault
  | fs, [] => (fs, none)
  | fs, name :: rest =>
    match remove fs name with
    | (fs, none) => removeEach remove fs rest
    | (fs, some fault) => (fs, some fault)

/-- Removes everything in a directory that has been opened. To go into a subdirectory, its status is looked
up and it is opened for reading. The bound is above the depth of the tree. -/
def emptyDirectory (now : Timestamp) : Nat → FileSystem → Location → FileSystem × Option RemovalFault
  | 0, fs, _ => (fs, none)
  | bound + 1, fs, directory =>
    removeEach (fun fs name =>
      match fs.node? (name :: directory) with
      | none => (fs, none)
      | some node =>
        if node.isDirectory then
          if !fs.isSearchable directory || !node.readable then (fs, some (.accessDenied, name))
          else
            match emptyDirectory now bound fs (name :: directory) with
            | (fs, none) => fs.removeEntry directory name now
            | (fs, some fault) => (fs, some fault)
        else fs.removeEntry directory name now)
      fs (fs.names directory)

/-- A bound above the depth of every tree in a file system. -/
def depthBound (fs : FileSystem) : Nat := fs.nodes.length + 1

end RequirePath.FileSystem
