import RequirePath.File.Resolve

/-! Changes to a file system, as a program asks for them by path: each names the time at which it happens,
checks what the system checks, and changes the node it is about and the time of the directory it lies in. -/

namespace RequirePath.FileSystem

/-- Names may be made and removed in the directory at a place. -/
def isWritableAt (fs : FileSystem) (place : Location) : Bool :=
  (fs.node? place).any Node.writable

/-- Makes a new node in a directory. -/
def create (fs : FileSystem) (parent : Location) (name : Filename) (node : Node) (now : Timestamp) :
    Except Errno FileSystem :=
  if fs.isWritableAt parent then .ok ((fs.put (name :: parent) node).touch parent now)
  else .error .accessDenied

/-- Makes a directory. -/
def makeDirectory (fs : FileSystem) (cwd : Location) (path : Pathname) (now : Timestamp) :
    Except Errno FileSystem :=
  match fs.resolve cwd false path with
  | .error e => .error e
  | .ok (.found _) => .error .entryExists
  | .ok (.vacant parent name) => fs.create parent name (Node.newDirectory now) now

/-- Changes the bytes of the file that a path leads to, or makes one at its vacant place. -/
def writeWith (fs : FileSystem) (cwd : Location) (path : Pathname) (now : Timestamp)
    (change : List UInt8 → List UInt8) : Except Errno FileSystem :=
  match fs.resolve cwd true path with
  | .error e => .error e
  | .ok (.vacant parent name) =>
    if endsInSlash path then .error .isDirectory
    else fs.create parent name (Node.newFile (change []) now) now
  | .ok (.found place) =>
    match fs.node? place with
    | none => .error .noEntry
    | some node =>
      if node.isDirectory then .error .isDirectory
      else if !node.writable then .error .accessDenied
      else
        match node.content with
        | .file bytes => .ok (fs.put place { node with content := .file (change bytes), modified := now })
        | _ => .error .noDevice

/-- Gives the file that a path leads to new bytes. -/
def write (fs : FileSystem) (cwd : Location) (path : Pathname) (bytes : List UInt8) (now : Timestamp) :
    Except Errno FileSystem :=
  fs.writeWith cwd path now fun _ => bytes

/-- Adds bytes at the end of the file that a path leads to. -/
def append (fs : FileSystem) (cwd : Location) (path : Pathname) (bytes : List UInt8) (now : Timestamp) :
    Except Errno FileSystem :=
  fs.writeWith cwd path now (· ++ bytes)

/-- Makes a file that only its owner may see, at a place that must be vacant. -/
def createPrivate (fs : FileSystem) (cwd : Location) (path : Pathname) (bytes : List UInt8)
    (now : Timestamp) : Except Errno FileSystem :=
  match fs.resolve cwd false path with
  | .error e => .error e
  | .ok (.found _) => .error .entryExists
  | .ok (.vacant parent name) => fs.create parent name ⟨.file bytes, Node.privateMode, now⟩ now

/-- The directory that the node at a place lies in may have names removed. -/
def mayRemoveAt (fs : FileSystem) (place : Location) : Bool :=
  fs.isWritableAt place.tail && fs.isSearchable place.tail

/-- Removes a file or a link. -/
def removeFile (fs : FileSystem) (cwd : Location) (path : Pathname) (now : Timestamp) :
    Except Errno FileSystem :=
  match fs.locate cwd false path with
  | .error e => .error e
  | .ok place =>
    if !fs.mayRemoveAt place then .error .accessDenied
    else if fs.isDirectoryAt place then .error .isDirectory
    else .ok ((fs.erase place).touch place.tail now)

/-- Removes an empty directory. The root and a path that ends in a double dot are refused. -/
def removeDirectory (fs : FileSystem) (cwd : Location) (path : Pathname) (now : Timestamp) :
    Except Errno FileSystem :=
  match fs.locate cwd false path with
  | .error e => .error e
  | .ok place =>
    if (steps path).isEmpty then .error .busy
    else if (steps path).getLast? = some dotDot then .error .notEmpty
    else if !fs.mayRemoveAt place then .error .accessDenied
    else if !fs.isDirectoryAt place then .error .notDirectory
    else if !fs.isBare place then .error .notEmpty
    else .ok ((fs.erase place).touch place.tail now)

/-- The last name of a path is no name of an entry. -/
def lacksName (path : Pathname) : Bool :=
  match (steps path).getLast? with
  | none => true
  | some name => name = dot || name = dotDot

/-- Moves a file to a path, in the stead of what is there, a link included. A directory stays: it is refused,
with a cause of its own if it is one that the file lies in. -/
def rename (fs : FileSystem) (cwd : Location) (old new : Pathname) (now : Timestamp) :
    Except Errno FileSystem :=
  match fs.locate cwd false old with
  | .error e => .error e
  | .ok source =>
    match fs.resolve cwd false new with
    | .error e => .error e
    | .ok target =>
      let place := match target with
        | .found place => place
        | .vacant parent name => name :: parent
      if lacksName new then .error .busy
      else if place.isSuffixOf source.tail then .error .notEmpty
      else if !fs.mayRemoveAt source || !fs.mayRemoveAt place then .error .accessDenied
      else if fs.isDirectoryAt place then .error .isDirectory
      else
        match fs.node? source with
        | none => .error .noEntry
        | some node =>
          let moved := (fs.erase source).put place node
          .ok ((moved.touch source.tail now).touch place.tail now)

end RequirePath.FileSystem
