import RequirePath.Cache.Record
import RequirePath.Path.Lexical

/-! What a loaded cache gives a resolver, and what a cache reports about its freshness. -/

namespace RequirePath

/-- The load paths in the order of their search, the files below them, and whether they were found anew. -/
structure Loaded where
  loadPaths : List Pathname
  entries : List Pathname
  rebuilt : Bool
  deriving DecidableEq, Repr

namespace Loaded

/-- The record of a loaded cache, if all its paths are texts. -/
def record? (l : Loaded) : Option Record := do
  let loadPaths ← l.loadPaths.mapM Pathname.text?
  let entries ← l.entries.mapM Pathname.text?
  pure ⟨loadPaths, entries⟩

/-- What a record read from a file gives. -/
def ofRecord (r : Record) : Loaded :=
  ⟨r.loadPaths.map Pathname.ofText, r.entries.map Pathname.ofText, false⟩

/-- The text of an index. -/
def indexText (entries : List Pathname) : String :=
  s!"LoadPathIndex({entries.length} entries)"

/-- A file of the index, by its exact spelling. -/
def contains (l : Loaded) (path : Pathname) : Bool :=
  l.entries.contains path

end Loaded

/-- A snapshot of a cache file, its lock file and its manifest, with times in seconds. -/
structure CacheReport where
  cacheFile : LexicalPath
  isThere : Bool
  readable : Bool
  cacheTime : Option Dyadic
  lockTime : Option Dyadic
  gemfileTime : Option Dyadic
  loadPathCount : Option Nat
  entryCount : Option Nat

namespace CacheReport

/-- One time is known and later than another one that is known. -/
def later (a b : Option Dyadic) : Bool :=
  match a, b with
  | some x, some y => y < x
  | _, _ => false

/-- The next load would find the load paths anew. -/
def isStale (r : CacheReport) : Bool :=
  !r.isThere || !r.readable || r.cacheTime.isNone || later r.lockTime r.cacheTime

/-- The manifest was changed after the lock file. -/
def lockIsStale (r : CacheReport) : Bool :=
  later r.gemfileTime r.lockTime

end CacheReport

end RequirePath
