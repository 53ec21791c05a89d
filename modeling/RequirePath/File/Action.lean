import RequirePath.File.Query
import RequirePath.File.Tree
import RequirePath.Host

/-! What the program does with files: questions and changes as actions on the machine, which fail with the
system's refusal and what it was about. -/

namespace RequirePath.Action

/-- Asks whether a path leads to a node of a kind. -/
def probe (kind : Node → Bool) (path : LexicalPath) : Action Bool :=
  lookOrFail fun h =>
    (h.files.probe h.workingDirectory kind path.spelling).mapError fun e => .system e path.spelling.quoted

/-- Asks whether a path leads to a node. -/
def isThere (path : LexicalPath) : Action Bool :=
  probe (fun _ => true) path

/-- Asks whether what a path leads to admits an access. -/
def permits (access : Node → Bool) (path : LexicalPath) : Action Bool :=
  look fun h => h.files.permits h.workingDirectory path.spelling access

/-- Asks for the time of what a path leads to. -/
def modified? (path : LexicalPath) : Action (Option Dyadic) :=
  lookOrFail fun h =>
    if Pathname.holdsNul path.spelling then .error .nulByte
    else .ok (h.files.modified? h.workingDirectory path.spelling)

/-- Makes one directory. -/
def makeDirectory (path : LexicalPath) : Action Unit :=
  changeFiles path.spelling fun h => h.files.makeDirectory h.workingDirectory path.spelling h.now

/-- Ends the making of a directory after a refusal: all is well if the directory is there. -/
def settle (path : LexicalPath) (refusal : Failure) : Action Unit := do
  if ← probe Node.isDirectory path then pure () else fail refusal

/-- Makes a directory in a directory that is there, unless it is there itself. -/
def ensureDirectory (path : LexicalPath) : Action Unit := do
  match ← attempt (makeDirectory path) with
  | .ok () => pure ()
  | .error (.system .noEntry subject) => fail (.system .noEntry subject)
  | .error (.system e subject) => settle path (.system e subject)
  | .error e => fail e

/-- Makes the directory of the given names, the last one first, and those that it lies in, as far as they are
not there. -/
def ensureDirectories (anchor : Anchor) : List Filename → Action Unit
  | [] => ensureDirectory ⟨anchor, []⟩
  | name :: outer => do
    let path : LexicalPath := ⟨anchor, (name :: outer).reverse⟩
    match ← attempt (makeDirectory path) with
    | .ok () => pure ()
    | .error (.system .noEntry _) => do
      ensureDirectories anchor outer
      ensureDirectory path
    | .error (.system e subject) => settle path (.system e subject)
    | .error e => fail e

/-- Makes a directory and those that it lies in, as far as they are not there. -/
def makePath (path : LexicalPath) : Action Unit :=
  ensureDirectories path.anchor path.names.reverse

/-- Gives the file of a path new bytes. -/
def write (path : LexicalPath) (bytes : List UInt8) : Action Unit :=
  changeFiles path.spelling fun h => h.files.write h.workingDirectory path.spelling bytes h.now

/-- Removes the tree of a path, which must be a directory and no link to one. -/
def removeTree (path : LexicalPath) : Action Unit := fun h =>
  let subject := path.spelling.quoted
  match h.files.locate h.workingDirectory false path.spelling, h.files.status h.workingDirectory path.spelling with
  | .error e, _ => (.error (.system e subject), h)
  | _, .error e => (.error (.system e subject), h)
  | .ok place, .ok node =>
    if !node.readable then (.error (.system .accessDenied subject), h)
    else if (h.files.node? place).any Node.isLink then (.error .linkAsTree, h)
    else if !node.isDirectory then (.error (.system .notDirectory s!"PosixPath({subject})"), h)
    else
      match h.files.emptyDirectory h.now h.files.depthBound place with
      | (files, some (e, name)) => (.error (.system e (Pathname.quoted name)), { h with files })
      | (files, none) =>
        changeFiles path.spelling (fun h => h.files.removeDirectory h.workingDirectory path.spelling h.now)
          { h with files }

end RequirePath.Action
