import RequirePath.File.Resolve

/-! Making a file system from a description: nodes are put at paths with the directories that lead to them,
and trees are taken away, whatever the permissions are. -/

namespace RequirePath.FileSystem

/-- Goes from a place along names, through links, and makes the directories that are missing. -/
def reach (now : Timestamp) : List Filename → Location → FileSystem → FileSystem × Location
  | [], here, fs => (fs, here)
  | name :: rest, here, fs =>
    let place := name :: here
    match fs.node? place with
    | some node =>
      if node.isLink then
        match fs.locate here true name with
        | .ok target => reach now rest target fs
        | .error _ => reach now rest place (fs.put place (Node.newDirectory now))
      else if node.isDirectory then reach now rest place fs
      else reach now rest place (fs.put place (Node.newDirectory now))
    | none => reach now rest place (fs.put place (Node.newDirectory now))

/-- The place of a path, with the directories that lead to it. -/
def reachParent (fs : FileSystem) (path : Pathname) (now : Timestamp) : FileSystem × Location :=
  let names := LexicalPath.namesOf path
  match names.getLast? with
  | none => (fs, [])
  | some last =>
    let (fs, parent) := reach now names.dropLast [] fs
    (fs, last :: parent)

/-- The places at and below a place, the deepest ones first. -/
def placesWithin (fs : FileSystem) (place : Location) : List Location :=
  ((fs.nodes.map Prod.fst).filter (place.isSuffixOf ·)).mergeSort fun a b => b.length ≤ a.length

/-- Takes away what is at and below a place. -/
def without (fs : FileSystem) (place : Location) : FileSystem :=
  (fs.placesWithin place).foldl erase fs

/-- Puts a node at a path, in the stead of what is there; a directory that is there stays. -/
def install (fs : FileSystem) (path : Pathname) (node : Node) : FileSystem :=
  let (fs, place) := fs.reachParent path node.modified
  if node.isDirectory && fs.isDirectoryAt place then fs
  else (fs.without place).put place node

/-- Changes the node at a path: a link itself, or what the path leads to. -/
def amend (fs : FileSystem) (path : Pathname) (follow : Bool) (change : Node → Node) : FileSystem :=
  let (fs, place) := fs.reachParent path ⟨0, 0⟩
  let place :=
    if follow then
      match fs.locate place.tail true (place.headD dot) with
      | .ok target => target
      | .error _ => place
    else place
  match fs.node? place with
  | some node => fs.put place (change node)
  | none => fs

end RequirePath.FileSystem
