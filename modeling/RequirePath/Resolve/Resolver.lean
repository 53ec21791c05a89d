import RequirePath.Cache.Loaded
import RequirePath.Config.Basic
import RequirePath.File.Action
import RequirePath.Path.Within
import RequirePath.Resolve.Variants

/-! Resolution of a specifier to the path of a file, in tiers: the index of the cache, then load paths in
the working tree on disk, then the directory of the file that requires it. The first tier with an answer
gives it; a specifier that no tier answers is left to the host. -/

namespace RequirePath

/-- One way to look for a module. -/
inductive Tier
  | index
  | filesystem
  | requestingDirectory
  | constant (path : Option Pathname)
  deriving DecidableEq, Repr

/-- The name of a tier. -/
def Tier.name : Tier → String
  | .index => "index"
  | .filesystem => "filesystem"
  | .requestingDirectory => "requesting_directory"
  | .constant _ => "const"

/-- The tiers of every resolver, in order. -/
def Tier.standard : List Tier := [.index, .filesystem, .requestingDirectory]

/-- A resolver: a loaded cache, a configuration and the tiers to try. -/
structure Resolver where
  loaded : Loaded
  config : Config
  tiers : List Tier

namespace Resolver

/-- A resolver over a cache, which must be loaded. -/
def make (loaded : Option Loaded) (config : Config) (tiers : List Tier) : Except Failure Resolver :=
  match loaded with
  | some l => .ok ⟨l, config, tiers⟩
  | none => .error .unloaded

/-- The text of a resolver. -/
def text (r : Resolver) : String :=
  let tiers := String.intercalate ", " (r.tiers.map Tier.name)
  s!"Resolver({r.loaded.loadPaths.length} load paths; {tiers})"

/-- A specifier ends in one of the suffixes of modules. -/
def handles (r : Resolver) (specifier : Pathname) : Bool :=
  Pathname.endsInAny specifier r.config.suffixes

/-- The candidates below a load path, in the order in which they are tried. -/
def candidates (v : Variants) (loadPath : Pathname) : List Pathname :=
  v.toList.map (loadPath ++ ·)

/-- What a tier answers on a file system. `requester` is the directory of the requiring file, if it is a
path at all; only the tier that looks there needs it. -/
def answer (r : Resolver) (fs : FileSystem) (cwd : Location) (requester : Option Pathname) (v : Variants) :
    Tier → Except Failure (Option Pathname)
  | .index => .ok ((r.loaded.loadPaths.flatMap (candidates v)).find? r.loaded.contains)
  | .filesystem =>
    let live := r.loaded.loadPaths.filter fun p => Pathname.isWithin p r.config.workingTree
    .ok ((live.flatMap (candidates v)).find? fun p => fs.exists? cwd p)
  | .requestingDirectory =>
    match requester with
    | none => .error .wrongType
    | some directory =>
      let candidate := directory ++ v.primary
      .ok (if Pathname.isWithin candidate r.config.workingTree && fs.exists? cwd candidate then some candidate
        else none)
  | .constant path => .ok path

/-- The first answer among tiers, with the name of its tier. An empty path is no answer. -/
def firstAnswer (r : Resolver) (fs : FileSystem) (cwd : Location) (requester : Option Pathname)
    (v : Variants) : List Tier → Except Failure (Option (Pathname × String))
  | [] => .ok none
  | tier :: rest =>
    match r.answer fs cwd requester v tier with
    | .error e => .error e
    | .ok (some (b :: path)) => .ok (some (b :: path, tier.name))
    | .ok _ => r.firstAnswer fs cwd requester v rest

/-- The part of the program that logs. -/
def part : String := "resolver"

/-- The path for a specifier and the name of the tier that gave it; `none` leaves it to the host. -/
def resolve (r : Resolver) (requester : Option Pathname) (specifier : Pathname) :
    Action (Option (Pathname × String)) := do
  if !r.handles specifier then pure none
  else
    let logical := logicalPath specifier
    match Variants.of? r.config.primarySuffix r.config.compiledSuffix logical with
    | none => Action.fail (.unsupportedSuffix (Pathname.display logical))
    | some v => do
      let found ← Action.lookOrFail fun h => r.firstAnswer h.files h.workingDirectory requester v r.tiers
      let shown := Pathname.display specifier
      match found with
      | some (path, tier) => Action.log part .debug s!"[owl:resolve] {shown} -> {Pathname.display path} ({tier})"
      | none =>
        Action.log part .debug s!"[owl:resolve] {shown} not found (from {Pathname.display (requester.getD [])})"
      pure found

end Resolver

end RequirePath
