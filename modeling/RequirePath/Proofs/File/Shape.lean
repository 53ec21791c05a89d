import Mathlib.Data.List.Nodup
import RequirePath.File.Query
import RequirePath.Proofs.File.Changes

/-! File systems of one shape: the same places are taken, and the nodes at each are alike, so that only times and the
bytes of files can differ. A path leads to the same place in both, or is refused for the same cause, and a directory
has the same names. -/

namespace RequirePath.FileSystem

variable {fs fs' : FileSystem} {q here place : Location} {follow must : Bool} {names : List Filename} {path : Pathname}
variable {n : Node} {cwd : Location} {a b c : Filename}

/-! ### The order of names -/

theorem nameLE_cons_iff {x y : UInt8} : nameLE (x :: a) (y :: b) = true ↔ x < y ∨ x = y ∧ nameLE a b = true := by
  simp [nameLE]

theorem nameLE_total (a b : Filename) : (nameLE a b || nameLE b a) = true := by
  rw [Bool.or_eq_true]
  induction a generalizing b with
  | nil => exact Or.inl rfl
  | cons x a ih =>
      cases b with
      | nil => exact Or.inr rfl
      | cons y b =>
          rw [nameLE_cons_iff, nameLE_cons_iff]
          by_cases hxy : x = y
          · exact (ih b).imp (fun h => Or.inr ⟨hxy, h⟩) fun h => Or.inr ⟨hxy.symm, h⟩
          · exact (UInt8.lt_or_lt_of_ne hxy).imp Or.inl Or.inl

theorem nameLE_trans (h : nameLE a b = true) (h' : nameLE b c = true) : nameLE a c = true := by
  induction a generalizing b c with
  | nil => rfl
  | cons x a ih =>
      cases b with
      | nil => cases h
      | cons y b =>
          cases c with
          | nil => cases h'
          | cons z c =>
              rw [nameLE_cons_iff] at h h' ⊢
              rcases h with h | ⟨rfl, h⟩
              · rcases h' with h' | ⟨rfl, -⟩
                · exact Or.inl (UInt8.lt_trans h h')
                · exact Or.inl h
              · rcases h' with h' | ⟨rfl, h'⟩
                · exact Or.inl h'
                · exact Or.inr ⟨rfl, ih h h'⟩

theorem nameLE_antisymm (h : nameLE a b = true) (h' : nameLE b a = true) : a = b := by
  induction a generalizing b with
  | nil =>
      cases b with
      | nil => rfl
      | cons y b => cases h'
  | cons x a ih =>
      cases b with
      | nil => cases h
      | cons y b =>
          rw [nameLE_cons_iff] at h h'
          rcases h with h | ⟨rfl, h⟩
          · rcases h' with h' | ⟨rfl, -⟩
            · exact absurd h' (UInt8.lt_asymm h)
            · exact absurd h (UInt8.lt_irrefl _)
          · rcases h' with h' | ⟨-, h'⟩
            · exact absurd h' (UInt8.lt_irrefl _)
            · rw [ih h h']

/-! ### Shapes -/

/-- The same places are taken, and the nodes at each are alike. -/
structure SameShape (fs fs' : FileSystem) : Prop where
  forth : Grows fs fs'
  back : Grows fs' fs

theorem SameShape.node?_cases (h : SameShape fs fs') (q : Location) :
    fs.node? q = none ∧ fs'.node? q = none ∨
      ∃ n n', fs.node? q = some n ∧ fs'.node? q = some n' ∧ n.Alike n' := by
  cases hn : fs.node? q with
  | none =>
      cases hn' : fs'.node? q with
      | none => exact Or.inl ⟨rfl, rfl⟩
      | some n' =>
          obtain ⟨n, hm, -⟩ := h.back q n' hn'
          cases hn.symm.trans hm
  | some n =>
      obtain ⟨n', hn', ha⟩ := h.forth q n hn
      exact Or.inr ⟨n, n', rfl, hn', ha⟩

theorem SameShape.isDirectoryAt_eq (h : SameShape fs fs') (q : Location) : fs'.isDirectoryAt q = fs.isDirectoryAt q := by
  rw [Bool.eq_iff_iff]
  exact ⟨h.back.isDirectoryAt, h.forth.isDirectoryAt⟩

theorem SameShape.isSearchable_eq (h : SameShape fs fs') (q : Location) : fs'.isSearchable q = fs.isSearchable q := by
  unfold isSearchable
  rcases h.node?_cases q with ⟨hn, hn'⟩ | ⟨n, n', hn, hn', ha⟩
  · rw [hn, hn']
  · rw [hn, hn', Option.any_some, Option.any_some, Node.searchable, Node.searchable, ha.1]

theorem SameShape.descend_eq (h : SameShape fs fs') (onLink : Location → Pathname → List Filename → Except Errno Place) :
    fs'.descend follow must onLink here names = fs.descend follow must onLink here names := by
  induction names generalizing here with
  | nil => rw [descend, descend, h.isDirectoryAt_eq]
  | cons name rest ih =>
      rw [descend, descend, h.isDirectoryAt_eq, h.isSearchable_eq, ih, ih]
      rcases h.node?_cases (name :: here) with ⟨hn, hn'⟩ | ⟨n, n', hn, hn', ha⟩
      · rw [hn, hn']
      · rw [hn, hn']
        dsimp only
        rcases ha.2 with hc | ⟨hf, hf'⟩
        · rw [hc, ih]
        · obtain ⟨bytes, hc⟩ := Node.isFile_iff.1 hf
          obtain ⟨bytes', hc'⟩ := Node.isFile_iff.1 hf'
          rw [hc, hc']
          dsimp only
          rw [ih]

theorem SameShape.resolveFrom_eq (h : SameShape fs fs') (links : Nat) :
    fs'.resolveFrom follow links must here names = fs.resolveFrom follow links must here names := by
  induction links generalizing must here names with
  | zero => exact h.descend_eq _
  | succ links ih =>
      rw [resolveFrom, resolveFrom, h.descend_eq]
      congr 1
      funext directory target rest
      rw [ih]

theorem SameShape.resolve_eq (h : SameShape fs fs') : fs'.resolve cwd follow path = fs.resolve cwd follow path := by
  rw [resolve, resolve, h.resolveFrom_eq]

theorem SameShape.locate_eq (h : SameShape fs fs') : fs'.locate cwd follow path = fs.locate cwd follow path := by
  rw [locate, locate, h.resolve_eq]

theorem SameShape.isThere_eq (h : SameShape fs fs') : fs'.isThere cwd path = fs.isThere cwd path := by
  unfold isThere probe status
  rw [h.locate_eq]
  cases fs.locate cwd true path with
  | error e => rfl
  | ok place =>
      dsimp only
      rcases h.node?_cases place with ⟨hn, hn'⟩ | ⟨n, n', hn, hn', -⟩
      · rw [hn, hn']
      · rw [hn, hn']

theorem SameShape.isWritableAt_eq (h : SameShape fs fs') (q : Location) : fs'.isWritableAt q = fs.isWritableAt q := by
  unfold isWritableAt
  rcases h.node?_cases q with ⟨hn, hn'⟩ | ⟨n, n', hn, hn', ha⟩
  · rw [hn, hn']
  · rw [hn, hn', Option.any_some, Option.any_some, Node.writable, Node.writable, ha.1]

theorem SameShape.directory?_eq (h : SameShape fs fs') : fs'.directory? cwd path = fs.directory? cwd path := by
  unfold directory? status
  rw [h.locate_eq]
  cases fs.locate cwd true path with
  | error e => rfl
  | ok place =>
      dsimp only
      rcases h.node?_cases place with ⟨hn, hn'⟩ | ⟨n, n', hn, hn', ha⟩
      · rw [hn, hn']
      · rw [hn, hn']
        dsimp only
        rw [ha.isDirectory_eq]

/-- The same places are taken, in whatever order. -/
theorem SameShape.perm (h : SameShape fs fs') : (fs'.nodes.map Prod.fst).Perm (fs.nodes.map Prod.fst) := by
  have hmem : ∀ (fs : FileSystem) (q : Location), q ∈ fs.nodes.map Prod.fst ↔ ∃ n, fs.node? q = some n := by
    intro fs q
    simp only [List.mem_map, node?_eq_some_iff, Prod.exists]
    constructor
    · rintro ⟨q', n, hn, rfl⟩
      exact ⟨n, hn⟩
    · rintro ⟨n, hn⟩
      exact ⟨q, n, hn, rfl⟩
  rw [List.perm_ext_iff_of_nodup fs'.distinct fs.distinct]
  intro q
  rw [hmem, hmem]
  rcases h.node?_cases q with ⟨hn, hn'⟩ | ⟨n, n', hn, hn', -⟩
  · rw [hn, hn']
  · rw [hn, hn']
    exact ⟨fun _ => ⟨n, rfl⟩, fun _ => ⟨n', rfl⟩⟩

theorem SameShape.length_nodes_eq (h : SameShape fs fs') : fs'.nodes.length = fs.nodes.length := by
  have hlength := h.perm.length_eq
  rwa [List.length_map, List.length_map] at hlength

/-- The name that a place has in a directory, if it lies in it. -/
def nameAt (directory : Location) : Location → Option Filename
  | name :: parent => if parent = directory then some name else none
  | [] => none

theorem names_eq (fs : FileSystem) (directory : Location) :
    fs.names directory = ((fs.nodes.map Prod.fst).filterMap (nameAt directory)).mergeSort nameLE := by
  have hname : nameIn directory = nameAt directory ∘ Prod.fst := by
    funext ⟨q, n⟩
    cases q <;> rfl
  rw [names, List.filterMap_map, hname]

theorem nameAt_eq_some_iff {directory q : Location} {name : Filename} : nameAt directory q = some name ↔ q = name :: directory := by
  cases q with
  | nil => simp [nameAt]
  | cons x parent => simp [nameAt, and_comm]

theorem pairwise_names (fs : FileSystem) (directory : Location) :
    (fs.names directory).Pairwise fun a b => nameLE a b = true :=
  @List.pairwise_mergeSort _ nameLE (fun _ _ _ => nameLE_trans) nameLE_total _

theorem nodup_names (fs : FileSystem) (directory : Location) : (fs.names directory).Nodup := by
  rw [names_eq, (List.mergeSort_perm _ _).nodup_iff]
  refine List.Nodup.filterMap (fun a a' name h h' => ?_) fs.distinct
  rw [nameAt_eq_some_iff.1 h, nameAt_eq_some_iff.1 h']

/-- A directory has the names of the places in it that are taken. -/
theorem mem_names_iff {directory : Location} {name : Filename} :
    name ∈ fs.names directory ↔ ∃ n, fs.node? (name :: directory) = some n := by
  simp only [names_eq, List.mem_mergeSort, List.mem_filterMap, nameAt_eq_some_iff, exists_eq_right, List.mem_map,
    Prod.exists, node?_eq_some_iff]
  constructor
  · rintro ⟨_, n, hn, rfl⟩
    exact ⟨n, hn⟩
  · rintro ⟨n, hn⟩
    exact ⟨_, n, hn, rfl⟩

/-- Names in their order are told by which they are. -/
theorem eq_of_mem_iff {xs ys : List Filename} (hx : xs.Pairwise fun a b => nameLE a b = true)
    (hy : ys.Pairwise fun a b => nameLE a b = true) (hxs : xs.Nodup) (hys : ys.Nodup) (h : ∀ x, x ∈ xs ↔ x ∈ ys) : xs = ys :=
  List.Perm.eq_of_pairwise (fun _ _ _ _ => nameLE_antisymm) hx hy ((List.perm_ext_iff_of_nodup hxs hys).2 h)

/-- The order of the names of a directory does not tell in which order they were made. -/
theorem SameShape.names_eq (h : SameShape fs fs') (directory : Location) : fs'.names directory = fs.names directory := by
  refine eq_of_mem_iff (pairwise_names _ _) (pairwise_names _ _) (nodup_names _ _) (nodup_names _ _) fun name => ?_
  rw [mem_names_iff, mem_names_iff]
  rcases h.node?_cases (name :: directory) with ⟨hn, hn'⟩ | ⟨n, n', hn, hn', -⟩
  · rw [hn, hn']
  · rw [hn, hn']
    exact ⟨fun _ => ⟨n, rfl⟩, fun _ => ⟨n', rfl⟩⟩

theorem SameShape.list_eq (h : SameShape fs fs') : fs'.list cwd path = fs.list cwd path := by
  unfold list
  rw [h.locate_eq]
  cases fs.locate cwd true path with
  | error e => rfl
  | ok place =>
      dsimp only
      rw [h.names_eq]
      rcases h.node?_cases place with ⟨hn, hn'⟩ | ⟨n, n', hn, hn', ha⟩
      · rw [hn, hn']
      · rw [hn, hn']
        dsimp only
        rw [ha.isDirectory_eq, Node.readable, Node.readable, ha.1]

/-- The writing of a file that is there leaves the shape. -/
theorem Writes.sameShape {node : Node} {bytes : List UInt8} {now : Timestamp} (h : Writes fs fs' place node bytes now) :
    SameShape fs fs' := by
  refine ⟨h.grows, fun q n' hn' => ?_⟩
  rw [h.node?_eq] at hn'
  by_cases hq : q = place
  · rw [if_pos hq, Option.some.injEq] at hn'
    subst hn'
    rw [hq]
    exact ⟨node, h.found, rfl, Or.inr ⟨rfl, h.isFile⟩⟩
  · rw [if_neg hq] at hn'
    exact ⟨n', hn', n'.alike_refl⟩

end RequirePath.FileSystem
