import RequirePath.Cache.Loaded
import RequirePath.LoadPaths
import RequirePath.Walk

/-! The cache of a project: a file with the record of its load paths and the files below them. A store loads
it once. It is made anew if it is missing or cannot be used, or if the lock file is later than it. A new
record is written to a file beside it, which then takes its place, so no reader sees half a record. -/

namespace RequirePath

namespace Cache

/-- The part of the program that logs. -/
def part : String := "cache_store"

/-- The part of the program that logs about the index. -/
def walkPart : String := "indexer"

/-- The wording of a refusal to read the cache file. -/
def readRefusal (path : LexicalPath) (e : Errno) : Failure :=
  .cacheCorrupt path.display (e.message path.spelling.quoted)

/-- Reads the record of the cache file. -/
def readRecord (path : LexicalPath) : Action Record :=
  Action.lookOrFail fun h =>
    if Pathname.holdsNul path.spelling then .error .nulByte
    else
      match h.files.read h.workingDirectory path.spelling with
      | .error e => .error (readRefusal path e)
      | .ok bytes => Record.decode path.display bytes

/-- Logs what a walk passed over. -/
def logNotes (notes : List Walk.Note) : Action Unit :=
  Action.change fun h =>
    notes.foldl (fun h n => h.log walkPart .debug n.message (Pathname.isText n.path)) h

/-- The index of one directory. -/
def indexDirectory (root : Pathname) (restriction : Walk.Restriction) (suffixes : List Pathname) :
    Action (List Pathname) := do
  let (entries, notes) ← Action.look fun h => Walk.index h.files h.workingDirectory restriction suffixes root
  logNotes notes
  pure entries

/-- The index of load paths, one after another. -/
def indexLoadPaths (restriction : Walk.Restriction) (suffixes : List Pathname) :
    List Pathname → Action (List Pathname)
  | [] => pure []
  | root :: rest => do
    let found ← indexDirectory root restriction suffixes
    Action.change fun h =>
      h.log walkPart .debug s!"[owl:index] {Pathname.display root}: {found.length} entries" (Pathname.isText root)
    let others ← indexLoadPaths restriction suffixes rest
    pure (found ++ others)

/-- The restriction of the walks of a project: its working tree is left out but for its allowed zones. -/
def restriction (c : Config) : Walk.Restriction :=
  ⟨true, c.workingTree, c.allowedZonePaths⟩

/-- The name of a file beside the cache file, by number. -/
def temporaryName (n : Nat) : Filename :=
  Pathname.ofText ("load_paths_" ++ Calendar.padded 8 n ++ ".tmp")

/-- The first such name that is not taken in a directory. -/
def freshName (h : Host) (directory : Pathname) : Filename :=
  let taken (n : Nat) : Bool :=
    match h.files.resolve h.workingDirectory false (Pathname.child directory (temporaryName n)) with
    | .ok (.found _) => true
    | _ => false
  temporaryName (((List.range (h.files.nodes.length + 1)).find? fun n => !taken n).getD 0)

/-- Writes a record to a new file that takes the place of the cache file. A record that is no text is not
written, and the new file is removed; a new file that cannot take the place stays. -/
def writeRecord (c : Config) (l : Loaded) : Action Unit := do
  Action.makePath c.cacheDirPath
  Action.makePath c.compilerCachePath
  let directory ← Action.look fun h => (LexicalPath.absolute h.workingPath c.cacheDirPath).spelling
  let name ← Action.look fun h => freshName h directory
  let path := Pathname.tidyChild directory name
  Action.changeFiles path fun h => h.files.createPrivate h.workingDirectory path [] h.now
  match l.record? with
  | none => do
    let _ ← Action.attempt <| Action.changeFiles path fun h => h.files.removeFile h.workingDirectory path h.now
    Action.fail .notText
  | some record => do
    Action.changeFiles path fun h => h.files.write h.workingDirectory path record.encode h.now
    let target := c.cacheFilePath.spelling
    Action.changeFiles target fun h => h.files.rename h.workingDirectory path target h.now

/-- Finds the load paths and their files anew and writes their record. -/
def rebuild (c : Config) : Action Loaded := do
  let loadPaths ← LoadPaths.enumerate c
  let entries ← indexLoadPaths (restriction c) c.suffixes loadPaths
  let l : Loaded := ⟨loadPaths, entries, true⟩
  writeRecord c l
  Action.log part .info s!"[owl:cache] cached {loadPaths.length} load paths, {entries.length} entries"
  pure l

/-- Fails unless a file of the project is there and may be read. -/
def checkFile (path : LexicalPath) : Action Unit := do
  if !(← Action.probe Node.isFile path) then
    Action.fail (.manifestMissing (Pathname.display path.name) path.display)
  else if !(← Action.permits Node.readable path) then
    Action.fail (.manifestUnreadable (Pathname.display path.name) path.display)
  else pure ()

/-- Fails unless the manifest and the lock file are there and may be read. -/
def checkManifest (c : Config) : Action Unit := do
  checkFile c.gemfilePath
  checkFile c.gemfileLockPath

/-- Asks whether the cache file is a file that may be read and written. If it is not, a placeholder is
written in its place and the answer is no. -/
def ensureCacheFile (c : Config) : Action Bool := do
  let usable ←
    if ← Action.probe Node.isFile c.cacheFilePath then
      Action.permits (fun n => n.readable && n.writable) c.cacheFilePath
    else pure false
  if usable then pure true
  else do
    Action.makePath c.cacheDirPath
    Action.makePath c.compilerCachePath
    Action.write c.cacheFilePath Record.placeholder
    pure false

/-- The wording of the warning about a manifest that is later than its lock file. -/
def staleLockMessage (c : Config) : String :=
  s!"{Pathname.display c.gemfile} is newer than {Pathname.display c.gemfileLock}, " ++
    "please run 'bundle install' or 'bundle update'!"

/-- The time of a file; one that cannot be found out counts as the epoch. -/
def timeOf (path : LexicalPath) : Action Dyadic := do
  return (← Action.modified? path).getD 0

/-- Warns if the manifest is later than its lock file. -/
def warnIfLockStale (c : Config) : Action Unit := do
  let gemfile ← timeOf c.gemfilePath
  let lock ← timeOf c.gemfileLockPath
  if lock < gemfile then do
    Action.log part .warning s!"[owl:cache] {staleLockMessage c}"
    Action.warn (staleLockMessage c)
  else pure ()

/-- Finds everything anew, for a reason. -/
def rebuildFor (c : Config) (reason : String) : Action Loaded := do
  Action.log part .info s!"[owl:cache] rebuilding load path cache ({reason})"
  rebuild c

/-- Loads the cache, or makes it anew if it cannot be used or the lock file is later than it. -/
def loadOrRebuild (c : Config) : Action Loaded := do
  checkManifest c
  let usable ← ensureCacheFile c
  warnIfLockStale c
  let lockTime ← timeOf c.gemfileLockPath
  let cacheTime ← timeOf c.cacheFilePath
  if !usable then rebuildFor c "cache missing"
  else if cacheTime < lockTime then rebuildFor c "Gemfile.lock is newer than cache"
  else
    match ← Action.attempt (readRecord c.cacheFilePath) with
    | .ok record => do
      let l := Loaded.ofRecord record
      Action.log part .debug <|
        s!"[owl:cache] loaded {l.loadPaths.length} load paths, " ++
          s!"{l.entries.length} entries from {c.cacheFilePath.display}"
      pure l
    | .error (.cacheCorrupt path reason) =>
      if c.onCorruptCache = .fail then Action.fail (.cacheCorrupt path reason)
      else do
        Action.log part .warning s!"[owl:cache] {(Failure.cacheCorrupt path reason).message}; rebuilding"
        rebuild c
    | .error e => Action.fail e

/-- Describes the cache file without loading it. -/
def status (c : Config) : Action CacheReport := do
  let path := c.cacheFilePath
  let isThere ← Action.isThere path
  let cacheTime ← Action.modified? path
  let lockTime ← Action.modified? c.gemfileLockPath
  let gemfileTime ← Action.modified? c.gemfilePath
  let report (readable : Bool) (counts : Option (Nat × Nat)) : CacheReport :=
    ⟨path, isThere, readable, cacheTime, lockTime, gemfileTime, counts.map Prod.fst, counts.map Prod.snd⟩
  if !isThere then pure (report false none)
  else
    match ← Action.attempt (readRecord path) with
    | .ok record => pure (report true (some (record.loadPaths.length, record.entries.length)))
    | .error (.cacheCorrupt p reason) => do
      Action.log part .debug s!"[owl:cache] status: {(Failure.cacheCorrupt p reason).message}"
      pure (report false none)
    | .error e => Action.fail e

/-- Removes the cache directory; the answer is whether it was there. -/
def clear (c : Config) : Action Bool := do
  let path := c.cacheDirPath
  if !(← Action.isThere path) then pure false
  else do
    Action.removeTree path
    Action.log part .info s!"[owl:cache] removed {path.display}"
    pure true

end Cache

/-- A store: a configuration, and the cache once it is loaded. -/
structure Store where
  config : Config
  loaded : Option Loaded := none

namespace Store

/-- Runs an action whose result becomes the loaded cache; a failure leaves the store as it was. -/
def keeping (s : Store) (act : Action Loaded) (h : Host) : (Except Failure Loaded × Store) × Host :=
  match act h with
  | (.ok l, h') => ((.ok l, { s with loaded := some l }), h')
  | (.error e, h') => ((.error e, s), h')

/-- Loads the cache, or makes it anew; a store that is loaded gives what it has. -/
def load (s : Store) (h : Host) : (Except Failure Loaded × Store) × Host :=
  match s.loaded with
  | some l => ((.ok l, s), h)
  | none => s.keeping (Cache.loadOrRebuild s.config) h

/-- Makes the cache anew. -/
def rebuild (s : Store) (h : Host) : (Except Failure Loaded × Store) × Host :=
  s.keeping (Cache.rebuild s.config) h

/-- Describes the cache file. -/
def status (s : Store) : Action CacheReport :=
  Cache.status s.config

/-- Removes the cache directory. The store is unloaded, also if that fails. -/
def clear (s : Store) (h : Host) : (Except Failure Bool × Store) × Host :=
  let (result, h') := Cache.clear s.config h
  ((result, { s with loaded := none }), h')

/-- The word for a store with or without a loaded cache. -/
def statusWord (s : Store) : String :=
  if s.loaded.isSome then "loaded" else "unloaded"

/-- The text of a store. -/
def text (s : Store) : String :=
  s!"CacheStore({s.config.cacheFilePath.display}, {s.statusWord})"

end Store

end RequirePath
