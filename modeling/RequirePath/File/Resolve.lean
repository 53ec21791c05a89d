import RequirePath.File.Errno
import RequirePath.File.FileSystem
import RequirePath.Path.Lexical

/-! What a path means in a file system: the names are looked up from the root or the working directory, each
in a directory that may be searched, and links are followed, a bounded number of times. -/

namespace RequirePath.FileSystem

/-- What a path leads to: a place that holds a node, or a directory and the name that is missing in it. -/
inductive Place
  | found (place : Location)
  | vacant (parent : Location) (name : Filename)
  deriving DecidableEq, Repr

/-- The names between the slashes of a path; dots are names here. -/
def steps (path : Pathname) : List Filename :=
  (Text.splitAt slash path).filter fun name => !name.isEmpty

/-- A path that ends in a slash, so it must lead to a directory. -/
def endsInSlash (path : Pathname) : Bool :=
  path.getLast? == some slash

/-- The directory at a place may be searched. -/
def isSearchable (fs : FileSystem) (place : Location) : Bool :=
  (fs.node? place).any Node.searchable

/-- The greatest number of bytes in a name. -/
def nameLimit : Nat := 255

/-- The greatest number of bytes in a path. -/
def pathLimit : Nat := 4095

/-- Looks names up one after another from a place. A link is handed to `onLink` with the place it lies in,
its target and the names after it, except that the last name may stay a link if `follow` is off.
`mustBeDirectory` is whether the last name has a slash after it. -/
def descend (fs : FileSystem) (follow mustBeDirectory : Bool)
    (onLink : Location → Pathname → List Filename → Except Errno Place) :
    Location → List Filename → Except Errno Place
  | here, [] =>
    if mustBeDirectory && !fs.isDirectoryAt here then .error .notDirectory else .ok (.found here)
  | here, name :: rest =>
    if !fs.isDirectoryAt here then .error .notDirectory
    else if !fs.isSearchable here then .error .accessDenied
    else if name = dot then descend fs follow mustBeDirectory onLink here rest
    else if name = dotDot then descend fs follow mustBeDirectory onLink here.tail rest
    else if nameLimit < name.length then .error .nameTooLong
    else
      match fs.node? (name :: here) with
      | none => if rest.isEmpty then .ok (.vacant here name) else .error .noEntry
      | some node =>
        match node.content with
        | .link target =>
          if rest.isEmpty && !follow && !mustBeDirectory then .ok (.found (name :: here))
          else onLink here target rest
        | _ => descend fs follow mustBeDirectory onLink (name :: here) rest

/-- The greatest number of links that one path may lead through. -/
def linkLimit : Nat := 40

/-- Looks names up from a place, following at most the given number of links. -/
def resolveFrom (fs : FileSystem) (follow : Bool) :
    Nat → Bool → Location → List Filename → Except Errno Place
  | 0, mustBeDirectory, here, names =>
    descend fs follow mustBeDirectory (fun _ _ _ => .error .tooManyLinks) here names
  | links + 1, mustBeDirectory, here, names =>
    descend fs follow mustBeDirectory
      (fun directory target rest =>
        if target.isEmpty then .error .noEntry
        else
          resolveFrom fs follow links (mustBeDirectory || (rest.isEmpty && endsInSlash target))
            (if Pathname.isAbsolute target then [] else directory) (steps target ++ rest))
      here names

/-- What a path leads to from a working directory. With `follow` off, a link under the last name is the
answer itself. -/
def resolve (fs : FileSystem) (cwd : Location) (follow : Bool) (path : Pathname) : Except Errno Place :=
  if path.isEmpty then .error .noEntry
  else if pathLimit < path.length then .error .nameTooLong
  else
    resolveFrom fs follow linkLimit (endsInSlash path) (if Pathname.isAbsolute path then [] else cwd)
      (steps path)

/-- The place of the node that a path leads to. -/
def locate (fs : FileSystem) (cwd : Location) (follow : Bool) (path : Pathname) : Except Errno Location :=
  match fs.resolve cwd follow path with
  | .error e => .error e
  | .ok (.found place) => .ok place
  | .ok (.vacant _ _) => .error .noEntry

/-- The node that a path leads to. -/
def status (fs : FileSystem) (cwd : Location) (path : Pathname) : Except Errno Node :=
  match fs.locate cwd true path with
  | .error e => .error e
  | .ok place =>
    match fs.node? place with
    | none => .error .noEntry
    | some node => .ok node

/-- The node that a path leads to, a link under its last name not followed. -/
def linkStatus (fs : FileSystem) (cwd : Location) (path : Pathname) : Except Errno Node :=
  match fs.locate cwd false path with
  | .error e => .error e
  | .ok place =>
    match fs.node? place with
    | none => .error .noEntry
    | some node => .ok node

/-- The names in a directory that may be read. -/
def list (fs : FileSystem) (cwd : Location) (path : Pathname) : Except Errno (List Filename) :=
  match fs.locate cwd true path with
  | .error e => .error e
  | .ok place =>
    match fs.node? place with
    | none => .error .noEntry
    | some node =>
      if !node.isDirectory then .error .notDirectory
      else if !node.readable then .error .accessDenied
      else .ok (fs.names place)

/-- The bytes of a file that may be read. No one writes to a pipe, so none can be opened. -/
def read (fs : FileSystem) (cwd : Location) (path : Pathname) : Except Errno (List UInt8) :=
  match fs.status cwd path with
  | .error e => .error e
  | .ok node =>
    if !node.readable then .error .accessDenied
    else
      match node.content with
      | .file bytes => .ok bytes
      | .directory => .error .isDirectory
      | _ => .error .noDevice

end RequirePath.FileSystem
