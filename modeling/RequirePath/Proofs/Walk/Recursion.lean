import Mathlib.Logic.Basic
import RequirePath.Cache.Store
import RequirePath.Proofs.File.Shape
import RequirePath.Proofs.Host

/-! The walk by recursion. The files below a directory are those of its entries, one after another: an entry that is
a file with one of the suffixes is one itself, and one that is a directory has the files below it, unless it is
excluded or the walk is inside of it. The walk with a stack finds the same files in the same order, and its bound
is never reached: it is inside of each directory once at a time, so at every level one directory less is left to go
into, and it takes each entry of a directory once. -/

namespace RequirePath.Walk

open Pathname (child)

variable {fs : FileSystem} {cwd : Location} {r : Restriction} {suffixes : List Pathname}
variable {directory root : Pathname} {here place : Location} {within : List Location} {name : Filename} {frame : Frame}
variable {outer : List Frame} {pending : List Filename} {entries : List Pathname} {notes : List Note}

/-! ### The recursion -/

/-- The number of places that hold a node and are not among some places. -/
def placesLeft (fs : FileSystem) (within : List Location) : Nat :=
  ((fs.nodes.map Prod.fst).filter fun place => place ∉ within).length

theorem placesLeft_le (within : List Location) : placesLeft fs within ≤ fs.nodes.length := by
  rw [placesLeft, ← fs.nodes.length_map Prod.fst]
  exact List.length_filter_le _ _

theorem placesLeft_cons_lt (hd : fs.isDirectoryAt place = true) (hp : place ∉ within) :
    placesLeft fs (place :: within) < placesLeft fs within := by
  have hmem : place ∈ (fs.nodes.map Prod.fst).filter fun q => q ∉ within := by
    obtain ⟨node, hnode, -⟩ := FileSystem.hasDirectory_iff.1 hd
    exact List.mem_filter.2 ⟨List.mem_map_of_mem hnode, by simpa using hp⟩
  have hfilter : ((fs.nodes.map Prod.fst).filter fun q => q ∉ place :: within) =
      ((fs.nodes.map Prod.fst).filter fun q => q ∉ within).filter fun q => q ≠ place := by
    rw [List.filter_filter]
    exact List.filter_congr fun q _ => by simp
  rw [placesLeft, placesLeft, hfilter]
  exact List.length_filter_lt_length_iff_exists.2 ⟨place, hmem, by simp⟩

theorem kindAt_eq_directory (h : kindAt fs here = .directory place) : here = place ∧ fs.isDirectoryAt here = true := by
  unfold kindAt at h
  cases hn : fs.node? here with
  | none =>
      rw [hn] at h
      cases h
  | some node =>
      rw [hn] at h
      dsimp only at h
      split_ifs at h with hd
      exact ⟨Kind.directory.inj h, FileSystem.isDirectoryAt_iff.2 ⟨node, hn, hd⟩⟩

theorem isDirectoryAt_of_classify (h : classify fs cwd frame name = .ok (.directory place)) :
    fs.isDirectoryAt place = true := by
  have hkind : ∀ q, Except.ok (ε := Errno) (kindAt fs q) = .ok (.directory place) → fs.isDirectoryAt place = true := by
    intro q hq
    obtain ⟨rfl, hd⟩ := kindAt_eq_directory (Except.ok.inj hq)
    exact hd
  unfold classify at h
  split at h
  · cases h
  · split_ifs at h
    · split at h
      · exact hkind _ h
      · cases h
      · cases h
    · exact hkind _ h

/-- The files below a directory, for a walk that is inside of it and of others: of these the places are given, its
own beside them. -/
def files (fs : FileSystem) (cwd : Location) (r : Restriction) (suffixes : List Pathname) (directory : Pathname)
    (here : Location) (within : List Location) : List Pathname :=
  (contents fs cwd directory).1.flatMap fun name =>
    match _hk : classify fs cwd ⟨directory, here, []⟩ name with
    | .error _ | .ok .other => []
    | .ok .file => if Pathname.endsInAny (child directory name) suffixes then [child directory name] else []
    | .ok (.directory place) =>
      if r.excludes (child directory name) then []
      else if _hp : place ∈ here :: within then []
      else files fs cwd r suffixes (child directory name) place (here :: within)
termination_by placesLeft fs (here :: within)
decreasing_by exact placesLeft_cons_lt (isDirectoryAt_of_classify _hk) _hp

/-- The files that one entry of a directory stands for. -/
def filesOfEntry (fs : FileSystem) (cwd : Location) (r : Restriction) (suffixes : List Pathname) (directory : Pathname)
    (here : Location) (within : List Location) (name : Filename) : List Pathname :=
  match classify fs cwd ⟨directory, here, []⟩ name with
  | .error _ | .ok .other => []
  | .ok .file => if Pathname.endsInAny (child directory name) suffixes then [child directory name] else []
  | .ok (.directory place) =>
    if r.excludes (child directory name) then []
    else if place ∈ here :: within then []
    else files fs cwd r suffixes (child directory name) place (here :: within)

theorem files_eq (directory : Pathname) (here : Location) (within : List Location) :
    files fs cwd r suffixes directory here within =
      (contents fs cwd directory).1.flatMap (filesOfEntry fs cwd r suffixes directory here within) := by
  rw [files]
  congr 1
  funext name
  unfold filesOfEntry
  split <;> rename_i heq <;> rw [heq]
  simp only [dite_eq_ite]

/-- What an entry stands for is the entry itself, a file with one of the suffixes, or lies below it, a directory that the
walk goes into. -/
theorem filesOfEntry_cases {path : Pathname} (h : path ∈ filesOfEntry fs cwd r suffixes directory here within name) :
    (classify fs cwd ⟨directory, here, []⟩ name = .ok .file ∧ path = child directory name ∧
      Pathname.endsInAny path suffixes = true) ∨
    ∃ place, classify fs cwd ⟨directory, here, []⟩ name = .ok (.directory place) ∧ place ∉ here :: within ∧
      path ∈ files fs cwd r suffixes (child directory name) place (here :: within) := by
  unfold filesOfEntry at h
  split at h
  · cases h
  · cases h
  · next hc =>
      split_ifs at h with hends
      · obtain rfl := List.mem_singleton.1 h
        exact Or.inl ⟨hc, rfl, hends⟩
      · cases h
  · next place hc =>
      split_ifs at h with hexcluded hwithin
      · cases h
      · cases h
      · exact Or.inr ⟨place, hc, hwithin, h⟩

/-- The contents of a directory are the names at the place that its path leads to, or none. -/
theorem contents_cases (fs : FileSystem) (cwd : Location) (directory : Pathname) :
    (contents fs cwd directory).1 = [] ∨
      ∃ place, fs.locate cwd true directory = .ok place ∧ (contents fs cwd directory).1 = fs.names place := by
  have hlist : ∀ names, fs.list cwd directory = .ok names → ∃ place, fs.locate cwd true directory = .ok place ∧
      names = fs.names place := by
    intro names h
    unfold FileSystem.list at h
    split at h
    · cases h
    · next place hlocate =>
        split at h
        · cases h
        · split_ifs at h
          exact ⟨place, hlocate, (Except.ok.inj h).symm⟩
  unfold contents
  cases h : fs.list cwd directory with
  | error e => exact Or.inl rfl
  | ok names => exact Or.inr (hlist names h)

/-! ### The stack -/

theorem length_contents_le (directory : Pathname) : (contents fs cwd directory).1.length ≤ fs.nodes.length := by
  rcases contents_cases fs cwd directory with hnone | ⟨place, -, hnames⟩
  · rw [hnone]
    exact Nat.zero_le _
  · rw [hnames, FileSystem.names, List.length_mergeSort]
    exact List.length_filterMap_le _ _

/-- One level of directories takes less steps than are allowed for one level more. -/
theorem lt_pow_succ {n m count : Nat} (h : count ≤ (n + 1) * Nat.pow (n + 2) m) : count < Nat.pow (n + 2) (m + 1) :=
  calc count ≤ (n + 1) * Nat.pow (n + 2) m := h
    _ < (n + 2) * Nat.pow (n + 2) m := Nat.mul_lt_mul_of_pos_right (Nat.lt_succ_self _) (Nat.pow_pos (Nat.succ_pos _))
    _ = Nat.pow (n + 2) (m + 1) := (Nat.pow_succ' ..).symm

variable (fs cwd r suffixes)

/-- A step takes the next entry of the innermost directory: it finds the files that the entry stands for, or goes
into the entry if these are the files below it. -/
theorem step_entry (directory : Pathname) (here : Location) (name : Filename) (pending : List Filename)
    (outer : List Frame) (entries : List Pathname) (notes : List Note) :
    ∃ notes',
      (step fs cwd r suffixes ⟨⟨directory, here, name :: pending⟩ :: outer, entries, notes⟩ =
        ⟨⟨directory, here, pending⟩ :: outer,
          entries ++ filesOfEntry fs cwd r suffixes directory here (outer.map Frame.place) name, notes'⟩) ∨
      ∃ place, classify fs cwd ⟨directory, here, []⟩ name = .ok (.directory place) ∧
        place ∉ here :: outer.map Frame.place ∧
        filesOfEntry fs cwd r suffixes directory here (outer.map Frame.place) name =
          files fs cwd r suffixes (child directory name) place (here :: outer.map Frame.place) ∧
        step fs cwd r suffixes ⟨⟨directory, here, name :: pending⟩ :: outer, entries, notes⟩ =
          ⟨⟨child directory name, place, (contents fs cwd (child directory name)).1⟩ ::
            ⟨directory, here, pending⟩ :: outer, entries, notes'⟩ := by
  -- what an entry is does not depend on the names that are left beside it
  have hpending : classify fs cwd ⟨directory, here, name :: pending⟩ name = classify fs cwd ⟨directory, here, []⟩ name :=
    rfl
  unfold step filesOfEntry
  dsimp only
  rw [hpending]
  cases hc : classify fs cwd ⟨directory, here, []⟩ name with
  | error e => exact ⟨_, Or.inl (by rw [List.append_nil])⟩
  | ok kind =>
      cases kind with
      | other => exact ⟨notes, Or.inl (by rw [List.append_nil])⟩
      | file =>
          dsimp only
          split_ifs
          · exact ⟨notes, Or.inl rfl⟩
          · exact ⟨notes, Or.inl (by rw [List.append_nil])⟩
      | directory place =>
          have hcycle : ((⟨directory, here, pending⟩ :: outer : List Frame).any fun f => f.place == place) = true ↔
              place ∈ here :: outer.map Frame.place := by
            show _ ↔ place ∈ (⟨directory, here, pending⟩ :: outer : List Frame).map Frame.place
            rw [List.any_eq_true, List.mem_map]
            simp only [beq_iff_eq]
          dsimp only
          rw [if_congr hcycle rfl rfl]
          split_ifs with hexcluded hwithin
          · exact ⟨_, Or.inl (by rw [List.append_nil])⟩
          · exact ⟨_, Or.inl (by rw [List.append_nil])⟩
          · exact ⟨_, Or.inr ⟨place, rfl, hwithin, rfl, rfl⟩⟩

/-- A walk takes what is left of the innermost directory, with all that lies below, and leaves it. The bound is on the
directories that it can go into from there. -/
theorem run_frame (bound : Nat) (outer : List Frame) (here : Location)
    (hb : placesLeft fs (here :: outer.map Frame.place) ≤ bound) (directory : Pathname) (pending : List Filename)
    (entries : List Pathname) (notes : List Note) :
    ∃ count notes', count ≤ (pending.length + 1) * Nat.pow (fs.nodes.length + 2) bound ∧ ∀ n,
      run fs cwd r suffixes (count + n) ⟨⟨directory, here, pending⟩ :: outer, entries, notes⟩ =
        run fs cwd r suffixes n ⟨outer,
          entries ++ pending.flatMap (filesOfEntry fs cwd r suffixes directory here (outer.map Frame.place)), notes'⟩ := by
  -- one induction on the places left, for going into an entry, and within it one on the names left in the directory
  induction bound using Nat.strongRecOn generalizing here outer directory pending entries notes with
  | ind bound deeper =>
      have hpow : 1 ≤ Nat.pow (fs.nodes.length + 2) bound := Nat.one_le_pow _ _ (Nat.succ_pos _)
      have hrun : ∀ count n pending entries notes,
          run fs cwd r suffixes (1 + count + n) ⟨⟨directory, here, pending⟩ :: outer, entries, notes⟩ =
            run fs cwd r suffixes (count + n) (step fs cwd r suffixes ⟨⟨directory, here, pending⟩ :: outer, entries, notes⟩) := by
        intro count n pending entries notes
        rw [show 1 + count + n = count + n + 1 by omega]
        rfl
      induction pending generalizing entries notes with
      | nil =>
          refine ⟨1, notes, by simpa using hpow, fun n => ?_⟩
          rw [show 1 + n = 1 + 0 + n by omega, hrun, List.flatMap_nil, List.append_nil, Nat.zero_add]
          rfl
      | cons name pending ih =>
          obtain ⟨notes₁, hstep | ⟨place, hc, hp, hfiles, hstep⟩⟩ :=
            step_entry fs cwd r suffixes directory here name pending outer entries notes
          · obtain ⟨count, notes₂, hcount, hrest⟩ := ih _ notes₁
            refine ⟨1 + count, notes₂, ?_, fun n => ?_⟩
            · rw [List.length_cons, Nat.succ_mul]
              omega
            · rw [hrun, hstep, hrest, List.flatMap_cons, List.append_assoc]
          · -- the entry is gone into: the walk below it ends in the place of the step
            have hless := placesLeft_cons_lt (isDirectoryAt_of_classify hc) hp
            obtain ⟨m, rfl⟩ : ∃ m, bound = m + 1 := ⟨bound - 1, by omega⟩
            obtain ⟨below, notes₂, hbelow, hinner⟩ := deeper m (Nat.lt_succ_self m)
              (⟨directory, here, pending⟩ :: outer) place (Nat.le_of_lt_succ (Nat.lt_of_lt_of_le hless hb)) (child directory name)
              (contents fs cwd (child directory name)).1 entries notes₁
            obtain ⟨count, notes₃, hcount, hrest⟩ := ih (entries ++ files fs cwd r suffixes (child directory name) place
              (here :: outer.map Frame.place)) notes₂
            refine ⟨1 + (below + count), notes₃, ?_, fun n => ?_⟩
            · have hlength := Nat.succ_le_succ (@length_contents_le fs cwd (child directory name))
              have hlevel := lt_pow_succ (Nat.le_trans hbelow (Nat.mul_le_mul_right _ hlength))
              rw [List.length_cons, Nat.succ_mul]
              omega
            · rw [hrun, hstep, Nat.add_assoc, hinner, ← files_eq, List.map_cons, hrest, List.flatMap_cons, hfiles,
                List.append_assoc]

/-- A walk that has ended stays as it is. -/
theorem run_of_ended {s : State} {n m : Nat} (h : (run fs cwd r suffixes n s).frames = []) (hm : n ≤ m) :
    run fs cwd r suffixes m s = run fs cwd r suffixes n s := by
  induction n generalizing s m with
  | zero =>
      cases m with
      | zero => rfl
      | succ m => exact if_pos (List.isEmpty_iff.2 h)
  | succ n ih =>
      obtain ⟨m, rfl⟩ : ∃ k, m = k + 1 := ⟨m - 1, by omega⟩
      rw [run] at h
      rw [run, run]
      split_ifs with hempty
      · rfl
      · rw [if_neg hempty] at h
        exact ih h (Nat.le_of_succ_le_succ hm)

/-- A walk from a directory ends within the bound, with the files below it. -/
theorem exists_run_enter (root : Pathname) (place : Location) :
    ∃ count ≤ stepBound fs, ∃ notes, run fs cwd r suffixes count (enter fs cwd root place ⟨[], [], []⟩) =
      ⟨[], files fs cwd r suffixes root place [], notes⟩ := by
  obtain ⟨count, notes, hcount, hrun⟩ := run_frame fs cwd r suffixes fs.nodes.length [] place
    (placesLeft_le [place]) root (contents fs cwd root).1 [] (contents fs cwd root).2
  refine ⟨count, ?_, notes, ?_⟩
  · have hlength := Nat.succ_le_succ (@length_contents_le fs cwd root)
    calc count ≤ Nat.pow (fs.nodes.length + 2) (fs.nodes.length + 1) :=
          Nat.le_of_lt (lt_pow_succ (Nat.le_trans hcount (Nat.mul_le_mul_right _ hlength)))
      _ ≤ Nat.pow (fs.nodes.length + 2) (fs.nodes.length + 2) := Nat.pow_le_pow_right (Nat.succ_pos _) (Nat.le_succ _)
  · rw [files_eq]
    exact hrun 0

/-- The walk from a directory finds the files below it. -/
theorem entries_run_enter (root : Pathname) (place : Location) :
    (run fs cwd r suffixes (stepBound fs) (enter fs cwd root place ⟨[], [], []⟩)).entries =
      files fs cwd r suffixes root place [] := by
  obtain ⟨count, hcount, notes, hrun⟩ := exists_run_enter fs cwd r suffixes root place
  rw [run_of_ended fs cwd r suffixes (by rw [hrun]) hcount, hrun]

/-- The index of a root has the files below it, if it is an absolute path of a directory that is not excluded. -/
theorem index_eq_files (root : Pathname) :
    (index fs cwd r suffixes root).1 =
      if Pathname.isAbsolute root && !r.excludes root && fs.directory? cwd root then
        match fs.locate cwd true root with
        | .ok place => files fs cwd r suffixes root place []
        | .error _ => []
      else [] := by
  unfold index FileSystem.directory? FileSystem.status
  cases Pathname.isAbsolute root with
  | false => rfl
  | true =>
      cases r.excludes root with
      | true => rfl
      | false =>
          cases Pathname.holdsNul root with
          | true => rfl
          | false =>
              cases hl : fs.locate cwd true root with
              | error e => rfl
              | ok place =>
                  cases hn : fs.node? place with
                  | none => simp [FileSystem.isDirectoryAt_eq_false hn, hn]
                  | some node =>
                      cases hd : node.isDirectory with
                      | false => simp [FileSystem.isDirectoryAt_of_node? hn, hn, hd]
                      | true => simp [FileSystem.isDirectoryAt_of_node? hn, hn, hd, entries_run_enter]

/-! ### What the files depend on -/

section

variable {fs fs' : FileSystem} {cwd : Location} {r : Restriction} {suffixes : List Pathname} (h : fs.SameShape fs')
include h

theorem kindAt_eq_of_sameShape (q : Location) : kindAt fs' q = kindAt fs q := by
  unfold kindAt
  rcases h.node?_cases q with ⟨hn, hn'⟩ | ⟨n, n', hn, hn', ha⟩
  · rw [hn, hn']
  · rw [hn, hn']
    dsimp only
    rw [ha.isDirectory_eq, ha.isFile_eq]

theorem classify_eq_of_sameShape (frame : Frame) (name : Filename) : classify fs' cwd frame name = classify fs cwd frame name := by
  unfold classify
  rw [h.locate_eq, kindAt_eq_of_sameShape h]
  rcases h.node?_cases (name :: frame.place) with ⟨hn, hn'⟩ | ⟨n, n', hn, hn', ha⟩
  · rw [hn, hn']
  · rw [hn, hn']
    dsimp only
    rw [ha.isLink_eq]
    split_ifs
    · cases fs.locate cwd true (Pathname.tidyChild frame.directory name) with
      | error e => cases e <;> rfl
      | ok place => exact congrArg Except.ok (kindAt_eq_of_sameShape h place)
    · rfl

theorem contents_eq_of_sameShape (directory : Pathname) : contents fs' cwd directory = contents fs cwd directory := by
  rw [contents, contents, h.list_eq]

/-- The files below a directory are the same in file systems of one shape. -/
theorem files_eq_of_sameShape (directory : Pathname) (here : Location) (within : List Location) :
    files fs' cwd r suffixes directory here within = files fs cwd r suffixes directory here within := by
  induction directory, here, within using files.induct fs cwd with
  | case1 directory here within ih =>
      rw [files_eq, files_eq, contents_eq_of_sameShape h]
      refine List.flatMap_congr fun name hname => ?_
      unfold filesOfEntry
      rw [classify_eq_of_sameShape h]
      cases hc : classify fs cwd ⟨directory, here, []⟩ name with
      | error e => rfl
      | ok kind =>
          cases kind with
          | other => rfl
          | file => rfl
          | directory place =>
              dsimp only
              split_ifs with hexcluded hwithin
              · rfl
              · rfl
              · exact ih name place hc hwithin

theorem index_eq_of_sameShape (root : Pathname) : (index fs' cwd r suffixes root).1 = (index fs cwd r suffixes root).1 := by
  rw [index_eq_files, index_eq_files, h.directory?_eq, h.locate_eq]
  simp only [files_eq_of_sameShape h]

end

/-- The indexing of a directory never fails, and finds what the recursion does, in the same order: nothing from a path
that is not absolute, is excluded or leads to no directory, and the files below it otherwise. -/
theorem indexDirectory_eq_files (root : Pathname) (r : Restriction) (suffixes : List Pathname) (h : Host) :
    (Cache.indexDirectory root r suffixes h).1 =
      .ok (if Pathname.isAbsolute root && !r.excludes root && h.files.directory? h.workingDirectory root then
        match h.files.locate h.workingDirectory true root with
        | .ok place => files h.files h.workingDirectory r suffixes root place []
        | .error _ => []
      else []) := by
  rw [← index_eq_files]
  rfl

end RequirePath.Walk
