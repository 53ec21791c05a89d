import RequirePath.Proofs.File.Actions
import RequirePath.Proofs.Walk.Named

/-! Walks end, whatever links there are. A walk goes into no place that it is inside of, so the places of the directories
that it is inside of are distinct, and there are no more of them than there are directories. The place of a directory is
what its path leads to with all links followed; the permissions of directories and the bound on the length of a path are
left aside for it. -/

namespace RequirePath

/-- The places of the directories. -/
def FileSystem.directories (fs : FileSystem) : List Location :=
  (fs.nodes.filter fun e => e.2.isDirectory).map Prod.fst

theorem FileSystem.mem_directories_iff {fs : FileSystem} {place : Location} :
    place ∈ fs.directories ↔ fs.isDirectoryAt place = true := by
  rw [isDirectoryAt, hasDirectory_iff]
  simp [directories]

namespace Walk

open FileSystem
open Pathname (child isAbsolute isEntryPath_child ofText)

variable {fs : FileSystem} {cwd place : Location} {r : Restriction} {suffixes : List Pathname} {root : Pathname}
variable {frames frames' : List Frame} {f : Frame}

/-! ### Steps -/

/-- What a step does to the directories that a walk is inside of: the walk leaves the innermost one, or passes over an
entry of it, or goes into an entry that is a directory and that it is not inside of. -/
inductive Turn (fs : FileSystem) (cwd : Location) : List Frame → List Frame → Prop
  | leave (directory : Pathname) (here : Location) (outer : List Frame) :
      Turn fs cwd (⟨directory, here, []⟩ :: outer) outer
  | pass (directory : Pathname) (here : Location) (name : Filename) (pending : List Filename) (outer : List Frame) :
      Turn fs cwd (⟨directory, here, name :: pending⟩ :: outer) (⟨directory, here, pending⟩ :: outer)
  | enter {directory : Pathname} {here place : Location} {name : Filename} {outer : List Frame} (pending : List Filename)
      (hc : classify fs cwd ⟨directory, here, []⟩ name = .ok (.directory place))
      (hp : place ∉ here :: outer.map Frame.place) :
      Turn fs cwd (⟨directory, here, name :: pending⟩ :: outer)
        (⟨child directory name, place, (contents fs cwd (child directory name)).1⟩ :: ⟨directory, here, pending⟩ :: outer)

theorem turn_step (fs : FileSystem) (cwd : Location) (r : Restriction) (suffixes : List Pathname) (s : State) :
    s.frames = [] ∧ step fs cwd r suffixes s = s ∨ Turn fs cwd s.frames (step fs cwd r suffixes s).frames := by
  obtain ⟨frames, entries, notes⟩ := s
  cases frames with
  | nil => exact Or.inl ⟨rfl, rfl⟩
  | cons frame outer =>
      obtain ⟨directory, here, pending⟩ := frame
      refine Or.inr ?_
      cases pending with
      | nil => exact .leave directory here outer
      | cons name pending =>
          obtain ⟨notes', hstep | ⟨place, hc, hp, -, hstep⟩⟩ :=
            step_entry fs cwd r suffixes directory here name pending outer entries notes
          · rw [hstep]
            exact .pass directory here name pending outer
          · rw [hstep]
            exact .enter pending hc hp

/-- What every turn keeps holds of the directories that a walk is inside of, at every time. -/
theorem run_of_turn {P : List Frame → Prop} (hturn : ∀ {frames frames'}, Turn fs cwd frames frames' → P frames → P frames')
    {s : State} (h : P s.frames) (n : Nat) : P (run fs cwd r suffixes n s).frames := by
  refine run_of_step (P := fun s => P s.frames) (fun s hs => ?_) h n
  rcases turn_step fs cwd r suffixes s with ⟨-, hstep⟩ | hstep
  · rw [hstep]
    exact hs
  · exact hturn hstep hs

/-! ### Distinct places -/

/-- Directories at distinct places. -/
structure Distinct (fs : FileSystem) (frames : List Frame) : Prop where
  nodup : (frames.map Frame.place).Nodup
  isDirectoryAt : ∀ f ∈ frames, fs.isDirectoryAt f.place = true

theorem Turn.distinct (h : Turn fs cwd frames frames') (hd : Distinct fs frames) : Distinct fs frames' := by
  cases h with
  | leave directory here outer =>
      exact ⟨(List.nodup_cons.1 hd.nodup).2, (List.forall_mem_cons.1 hd.isDirectoryAt).2⟩
  | pass directory here name pending outer =>
      exact ⟨hd.nodup, List.forall_mem_cons.2 (List.forall_mem_cons.1 hd.isDirectoryAt)⟩
  | enter pending hc hp =>
      refine ⟨List.nodup_cons.2 ⟨hp, hd.nodup⟩, List.forall_mem_cons.2 ⟨isDirectoryAt_of_classify hc, ?_⟩⟩
      exact List.forall_mem_cons.2 (List.forall_mem_cons.1 hd.isDirectoryAt)

/-- Directories at distinct places are no more than there are. -/
theorem Distinct.length_le (h : Distinct fs frames) : frames.length ≤ fs.directories.length := by
  have hsub : frames.map Frame.place ⊆ fs.directories := by
    intro q hq
    obtain ⟨f, hf, rfl⟩ := List.mem_map.1 hq
    exact mem_directories_iff.2 (h.isDirectoryAt f hf)
  calc frames.length = (frames.map Frame.place).length := (List.length_map _).symm
    _ ≤ fs.directories.length := h.nodup.length_le_of_subset hsub

/-! ### Real places -/

/-- The path of a directory that a walk is inside of leads to its place, and the names that are left are names in it. -/
structure IsPlaced (fs : FileSystem) (cwd : Location) (f : Frame) : Prop where
  isAbsolute : isAbsolute f.directory = true
  realPlace : fs.realPlace? f.directory = some f.place
  pending : f.pending ⊆ (contents fs cwd f.directory).1

/-- A directory with a name that is left has been listed at its place. -/
theorem IsPlaced.locate {name : Filename} (h : IsPlaced fs cwd f) (hname : name ∈ f.pending) :
    fs.locate cwd true f.directory = .ok f.place := by
  obtain ⟨d, hd⟩ := locate_of_mem_contents (h.pending hname)
  have hreal := (realPlace?_of_locate h.isAbsolute hd).symm.trans h.realPlace
  rw [hd, Option.some.inj hreal]

theorem Turn.isPlaced (hn : fs.WellNamed) (hs : fs.ShortNamed) (h : Turn fs cwd frames frames')
    (hp : ∀ f ∈ frames, IsPlaced fs cwd f) : ∀ f ∈ frames', IsPlaced fs cwd f := by
  -- the names that are left stay names of the directory as they are taken
  have htake : ∀ {directory here name pending}, IsPlaced fs cwd ⟨directory, here, name :: pending⟩ →
      IsPlaced fs cwd ⟨directory, here, pending⟩ := fun h =>
    ⟨h.isAbsolute, h.realPlace, fun _ hx => h.pending (List.mem_cons_of_mem _ hx)⟩
  cases h with
  | leave directory here outer => exact (List.forall_mem_cons.1 hp).2
  | pass directory here name pending outer =>
      obtain ⟨hfirst, hrest⟩ := List.forall_mem_cons.1 hp
      exact List.forall_mem_cons.2 ⟨htake hfirst, hrest⟩
  | @enter directory here place name outer pending hc _ =>
      obtain ⟨hfirst, hrest⟩ := List.forall_mem_cons.1 hp
      obtain ⟨q, hq, hkind⟩ := exists_realPlace?_of_classify hn hs hfirst.isAbsolute (hfirst.locate List.mem_cons_self) hc
        (by rintro ⟨⟩)
      obtain ⟨rfl, -⟩ := kindAt_eq_directory hkind
      have hplain := isPlainName_of_classify hn hc (by rintro ⟨⟩)
      refine List.forall_mem_cons.2 ⟨⟨?_, hq, List.Subset.refl _⟩, List.forall_mem_cons.2 ⟨htake hfirst, hrest⟩⟩
      exact (isEntryPath_child hfirst.isAbsolute hplain).isAbsolute

/-! ### Walks -/

/-- A walk from a root begins in the directory at a place. -/
structure Begins (fs : FileSystem) (cwd : Location) (r : Restriction) (root : Pathname) (place : Location) : Prop where
  isAbsolute : isAbsolute root = true
  excludes : r.excludes root = false
  directory : fs.directory? cwd root = true
  locate : fs.locate cwd true root = .ok place

/-- A walk from a root, in the directory at a place, after a number of steps; it takes none once it is inside of no
directory. -/
def after (fs : FileSystem) (cwd : Location) (r : Restriction) (suffixes : List Pathname) (root : Pathname)
    (place : Location) (n : Nat) : State :=
  run fs cwd r suffixes n (enter fs cwd root place ⟨[], [], []⟩)

theorem Begins.isDirectoryAt (h : Begins fs cwd r root place) : fs.isDirectoryAt place = true := by
  obtain ⟨-, q, hq, hd⟩ := directory?_eq_true_iff.1 h.directory
  obtain rfl := Except.ok.inj (hq.symm.trans h.locate)
  exact hd

theorem index_of_not_begins (h : ∀ place, ¬Begins fs cwd r root place) : (index fs cwd r suffixes root).1 = [] := by
  rw [index_eq_files]
  split_ifs with hroot
  · simp only [Bool.and_eq_true, Bool.not_eq_true'] at hroot
    split
    · next place hl => exact absurd ⟨hroot.1.1, hroot.1.2, hroot.2, hl⟩ (h place)
    · rfl
  · rfl

theorem index_of_begins (h : Begins fs cwd r root place) :
    index fs cwd r suffixes root = ((after fs cwd r suffixes root place (stepBound fs)).entries,
      (after fs cwd r suffixes root place (stepBound fs)).notes) := by
  obtain ⟨hnul, -⟩ := directory?_eq_true_iff.1 h.directory
  unfold index
  rw [h.isAbsolute, h.excludes, hnul, h.locate]
  dsimp only
  rw [h.isDirectoryAt]
  rfl

theorem Begins.distinct (h : Begins fs cwd r root place) :
    Distinct fs (enter fs cwd root place ⟨[], [], []⟩).frames :=
  ⟨List.nodup_singleton _, fun _ hf => List.mem_singleton.1 hf ▸ h.isDirectoryAt⟩

theorem Begins.isPlaced (h : Begins fs cwd r root place) :
    ∀ f ∈ (enter fs cwd root place ⟨[], [], []⟩).frames, IsPlaced fs cwd f := by
  intro f hf
  obtain rfl := List.mem_singleton.1 hf
  exact ⟨h.isAbsolute, realPlace?_of_locate h.isAbsolute h.locate, List.Subset.refl _⟩

/-- A walk from any root under any restriction ends. Either it does not begin, and finds nothing, or it begins in a
directory; then it is inside of none after finitely many steps, within the bound that the index allows, and has found what
the index has. At every time the directories that it is inside of are at distinct places, so they are no more than there
are, and the path of each leads to its place. -/
theorem walk_ends (fs : FileSystem) (cwd : Location) (r : Restriction) (suffixes : List Pathname) (root : Pathname) :
    ((∀ place, ¬Begins fs cwd r root place) ∧ (index fs cwd r suffixes root).1 = []) ∨
    ∃ place, Begins fs cwd r root place ∧
      let walk := after fs cwd r suffixes root place
      (∃ n ≤ stepBound fs, (walk n).frames = [] ∧ (∀ m, n ≤ m → walk m = walk n) ∧
        index fs cwd r suffixes root = ((walk n).entries, (walk n).notes)) ∧
      ∀ n, ((walk n).frames.map Frame.place).Nodup ∧ (∀ f ∈ (walk n).frames, fs.isDirectoryAt f.place = true) ∧
        (walk n).frames.length ≤ fs.directories.length ∧
        (fs.WellNamed → fs.ShortNamed → ∀ f ∈ (walk n).frames, fs.realPlace? f.directory = some f.place) := by
  by_cases hbegins : ∃ place, Begins fs cwd r root place
  · obtain ⟨place, h⟩ := hbegins
    refine Or.inr ⟨place, h, ?_, fun n => ?_⟩
    · obtain ⟨count, hcount, notes, hrun⟩ := exists_run_enter fs cwd r suffixes root place
      have hend : (after fs cwd r suffixes root place count).frames = [] := by rw [after, hrun]
      have hlater : ∀ m, count ≤ m → after fs cwd r suffixes root place m = after fs cwd r suffixes root place count :=
        fun m hm => run_of_ended fs cwd r suffixes hend hm
      exact ⟨count, hcount, hend, hlater, by rw [index_of_begins h, hlater _ hcount]⟩
    · have hdistinct : Distinct fs (after fs cwd r suffixes root place n).frames := run_of_turn Turn.distinct h.distinct n
      have hplaced : fs.WellNamed → fs.ShortNamed → ∀ f ∈ (after fs cwd r suffixes root place n).frames, IsPlaced fs cwd f :=
        fun hn hs => run_of_turn (P := fun frames => ∀ f ∈ frames, IsPlaced fs cwd f) (Turn.isPlaced hn hs) h.isPlaced n
      exact ⟨hdistinct.nodup, hdistinct.isDirectoryAt, hdistinct.length_le, fun hn hs f hf => (hplaced hn hs f hf).realPlace⟩
  · have hnone : ∀ place, ¬Begins fs cwd r root place := not_exists.1 hbegins
    exact Or.inl ⟨hnone, index_of_not_begins hnone⟩

/-- Two directories with links to each other. -/
def sampleLinked : FileSystem :=
  let t : Timestamp := ⟨10, 0⟩
  let fs := (FileSystem.empty t).put [ofText "lib"] (Node.newDirectory t)
  let fs := fs.put [ofText "srv"] (Node.newDirectory t)
  let fs := fs.put [ofText "there", ofText "lib"] ⟨.link (ofText "/srv"), Node.linkMode, t⟩
  fs.put [ofText "back", ofText "srv"] ⟨.link (ofText "../lib"), Node.linkMode, t⟩

/-- A walk from one of them goes into the other one, but not back: it ends, and is never inside of more than the three
directories that there are. -/
theorem walk_ends_sample :
    ∃ place, Begins sampleLinked [] free (ofText "/lib") place ∧
      let walk := after sampleLinked [] free [ofText ".rb"] (ofText "/lib") place
      (walk 1).frames.map Frame.directory = [ofText "/lib/there", ofText "/lib"] ∧ (∃ n, (walk n).frames = []) ∧
      ∀ n, (walk n).frames.length ≤ 3 ∧ ∀ f ∈ (walk n).frames, sampleLinked.realPlace? f.directory = some f.place := by
  have hlocate : sampleLinked.locate [] true (ofText "/lib") = .ok [ofText "lib"] := by rfl
  have hbegins : Begins sampleLinked [] free (ofText "/lib") [ofText "lib"] := ⟨by decide, by decide, by decide, hlocate⟩
  rcases walk_ends sampleLinked [] free [ofText ".rb"] (ofText "/lib") with ⟨hnone, -⟩ | ⟨place, h, ⟨n, -, hn, -⟩, hevery⟩
  · exact absurd hbegins (hnone _)
  · obtain rfl : place = [ofText "lib"] := Except.ok.inj (h.locate.symm.trans hlocate)
    exact ⟨_, h, by decide +kernel, ⟨n, hn⟩, fun m => ⟨(hevery m).2.2.1, (hevery m).2.2.2 (by decide) (by decide)⟩⟩

end Walk

end RequirePath
