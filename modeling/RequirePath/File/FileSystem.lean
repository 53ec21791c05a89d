import RequirePath.File.Node

/-! File systems: the nodes by their places. The root is a directory, every other node lies in one, and no
place holds two nodes. All changes are made of two: `put`, which makes or replaces one node, and `erase`,
which removes one. Each leaves every other place as it was. -/

namespace RequirePath

/-- A place in a file system: the names that lead to it from the root, the last one first. -/
abbrev Location := List Filename

/-- Some list of nodes has a directory at a place. -/
def hasDirectory (nodes : List (Location × Node)) (place : Location) : Bool :=
  nodes.any fun e => e.1 == place && e.2.isDirectory

/-- The nodes of a file system by their places. -/
structure FileSystem where
  nodes : List (Location × Node)
  distinct : (nodes.map Prod.fst).Nodup
  root_isDirectory : hasDirectory nodes [] = true
  parent_isDirectory : ∀ name parent node, (name :: parent, node) ∈ nodes → hasDirectory nodes parent = true

namespace FileSystem

/-- The node at a place. -/
def node? (fs : FileSystem) (place : Location) : Option Node :=
  fs.nodes.lookup place

/-- There is a directory at a place. -/
def isDirectoryAt (fs : FileSystem) (place : Location) : Bool :=
  hasDirectory fs.nodes place

/-- A place that has nothing in it. -/
def isBare (fs : FileSystem) (place : Location) : Bool :=
  fs.nodes.all fun e => e.1.tail != place || e.1.isEmpty

/-- The file system that holds one directory, the root. -/
def empty (now : Timestamp) : FileSystem where
  nodes := [([], Node.newDirectory now)]
  distinct := by simp
  root_isDirectory := by simp [hasDirectory, Node.newDirectory, Node.isDirectory]
  parent_isDirectory := by simp

/-- A node may stand at a place: the place lies in a directory, or is the root and the node a directory,
and only a directory has anything in it. -/
def admits (fs : FileSystem) (place : Location) (node : Node) : Bool :=
  (match place with
    | [] => node.isDirectory
    | _ :: parent => fs.isDirectoryAt parent) &&
  (node.isDirectory || fs.isBare place)

theorem hasDirectory_iff {nodes : List (Location × Node)} {place : Location} :
    hasDirectory nodes place = true ↔ ∃ n, (place, n) ∈ nodes ∧ n.isDirectory = true := by
  simp only [hasDirectory, List.any_eq_true, Bool.and_eq_true, beq_iff_eq, Prod.exists]
  constructor
  · rintro ⟨p, n, hm, rfl, hd⟩
    exact ⟨n, hm, hd⟩
  · rintro ⟨n, hm, hd⟩
    exact ⟨place, n, hm, rfl, hd⟩

/-- Puts a node at a place, in the stead of the node there; a node that may not stand there changes
nothing. -/
def put (fs : FileSystem) (place : Location) (node : Node) : FileSystem :=
  if h : fs.admits place node = true then
    { nodes := (place, node) :: fs.nodes.filter fun e => e.1 != place
      distinct := by
        have hsub : ((fs.nodes.filter fun e => e.1 != place).map Prod.fst).Sublist (fs.nodes.map Prod.fst) :=
          List.filter_sublist.map _
        simp only [List.map_cons, List.nodup_cons]
        exact ⟨by simp, hsub.nodup fs.distinct⟩
      root_isDirectory := by
        simp only [admits, Bool.and_eq_true] at h
        rcases place with _ | ⟨name, parent⟩
        · exact hasDirectory_iff.2 ⟨node, by simp, h.1⟩
        · obtain ⟨n, hm, hd⟩ := hasDirectory_iff.1 fs.root_isDirectory
          exact hasDirectory_iff.2 ⟨n, by simp [hm], hd⟩
      parent_isDirectory := by
        simp only [admits, Bool.and_eq_true, Bool.or_eq_true] at h
        have keep : ∀ q, (q = place → node.isDirectory = true) → hasDirectory fs.nodes q = true →
            hasDirectory ((place, node) :: fs.nodes.filter fun e => e.1 != place) q = true := by
          intro q hq hd
          obtain ⟨n, hm, hn⟩ := hasDirectory_iff.1 hd
          by_cases e : q = place
          · exact hasDirectory_iff.2 ⟨node, by simp [e], hq e⟩
          · exact hasDirectory_iff.2 ⟨n, by simp [hm, e], hn⟩
        intro name parent n hm
        rcases List.mem_cons.1 hm with he | he
        · obtain ⟨rfl, rfl⟩ := Prod.mk.inj he
          exact keep _ (fun e => absurd e.symm (List.cons_ne_self _ _)) h.1
        · obtain ⟨hmem, _⟩ := List.mem_filter.1 he
          refine keep _ (fun e => ?_) (fs.parent_isDirectory _ _ _ hmem)
          rcases h.2 with hd | hb
          · exact hd
          · have := List.all_eq_true.1 hb _ hmem
            simp [e] at this }
  else fs

/-- Removes the node at a place; the root, and a directory with something in it, stay. -/
def erase (fs : FileSystem) (place : Location) : FileSystem :=
  if h : place ≠ [] ∧ fs.isBare place = true then
    { nodes := fs.nodes.filter fun e => e.1 != place
      distinct := (List.filter_sublist.map _).nodup fs.distinct
      root_isDirectory := by
        obtain ⟨n, hm, hd⟩ := hasDirectory_iff.1 fs.root_isDirectory
        exact hasDirectory_iff.2 ⟨n, by simp [hm, Ne.symm h.1], hd⟩
      parent_isDirectory := by
        intro name parent n hm
        obtain ⟨hmem, _⟩ := List.mem_filter.1 hm
        obtain ⟨d, hd, hdir⟩ := hasDirectory_iff.1 (fs.parent_isDirectory _ _ _ hmem)
        have hne : parent ≠ place := by
          rintro rfl
          have := List.all_eq_true.1 h.2 _ hmem
          simp at this
        exact hasDirectory_iff.2 ⟨d, by simp [hd, hne], hdir⟩ }
  else fs

/-- Whether one name comes before another or is the same, byte by byte. -/
def nameLE : Filename → Filename → Bool
  | [], _ => true
  | _ :: _, [] => false
  | a :: as, b :: bs => a < b || (a == b && nameLE as bs)

/-- The name that an entry has in a directory, if it lies in it. -/
def nameIn (directory : Location) (e : Location × Node) : Option Filename :=
  match e.1 with
  | name :: parent => if parent = directory then some name else none
  | [] => none

/-- The names of the entries of a directory, in the order of their bytes. -/
def names (fs : FileSystem) (directory : Location) : List Filename :=
  (fs.nodes.filterMap (nameIn directory)).mergeSort nameLE

/-- Gives a node another time of change. -/
def touch (fs : FileSystem) (place : Location) (now : Timestamp) : FileSystem :=
  match fs.node? place with
  | some n => fs.put place { n with modified := now }
  | none => fs

/-- The path of a place, from the root. -/
def spell (place : Location) : Pathname :=
  if place.isEmpty then [slash] else place.reverse.flatMap (slash :: ·)

end FileSystem

end RequirePath
