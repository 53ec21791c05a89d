import RequirePath.Proofs.File.Nodes
import RequirePath.Proofs.Path.Within
import RequirePath.Walk

/-! What a restricted walk keeps out. Each directory that the walk goes into was not excluded, so nothing strays
into the working tree as long as exclusion sees which directories those are. It compares spellings, so it sees
them only from a root whose slashes stand as in the path of the working tree; from any other root outside of it,
nothing is excluded. -/

namespace RequirePath

/-- The names of entries are plain. -/
def FileSystem.WellNamed (fs : FileSystem) : Prop := ∀ q n, fs.node? q = some n → ∀ x ∈ q, IsPlainName x

instance (fs : FileSystem) : Decidable fs.WellNamed :=
  decidable_of_iff (∀ e ∈ fs.nodes, ∀ x ∈ e.1, IsPlainName x)
    ⟨fun h q n hn => h (q, n) (FileSystem.node?_eq_some_iff.1 hn),
      fun h e he => h e.1 e.2 (FileSystem.node?_eq_some_iff.2 he)⟩

namespace Walk

open FileSystem (steps)
open Pathname (child isWithin Extends IsTidy)

variable {fs : FileSystem} {cwd place : Location} {r r' : Restriction} {suffixes : List Pathname} {s s' : State}
variable {root directory path : Pathname} {name : Filename} {frame : Frame} {wt : LexicalPath} {zones : List LexicalPath}

/-! ### Steps -/

/-- The walk is inside of no directory that it was not inside of before. -/
def Stays (s s' : State) : Prop := ∀ f ∈ s'.frames, ∃ g ∈ s.frames, f.directory = g.directory

/-- A step finds a file, or goes into a directory that is not excluded, or does neither. -/
theorem step_cases (s : State) :
    ((step fs cwd r suffixes s).entries = s.entries ∧ Stays s (step fs cwd r suffixes s)) ∨
    ∃ frame ∈ s.frames, ∃ name,
      (classify fs cwd frame name = .ok .file ∧
        (step fs cwd r suffixes s).entries = s.entries ++ [child frame.directory name] ∧
        Stays s (step fs cwd r suffixes s)) ∨
      ∃ place, classify fs cwd frame name = .ok (.directory place) ∧ r.excludes (child frame.directory name) = false ∧
        (step fs cwd r suffixes s).entries = s.entries ∧
        ∀ f ∈ (step fs cwd r suffixes s).frames, f.directory = child frame.directory name ∨
          ∃ g ∈ s.frames, f.directory = g.directory := by
  obtain ⟨frames, entries, notes⟩ := s
  cases frames with
  | nil => exact Or.inl ⟨rfl, fun f hf => ⟨f, hf, rfl⟩⟩
  | cons frame outer =>
      obtain ⟨directory, place, pending⟩ := frame
      cases pending with
      | nil => exact Or.inl ⟨rfl, fun f hf => ⟨f, List.mem_cons_of_mem _ hf, rfl⟩⟩
      | cons name pending =>
          have hstays : ∀ f ∈ (⟨directory, place, pending⟩ : Frame) :: outer,
              ∃ g ∈ (⟨directory, place, name :: pending⟩ : Frame) :: outer, f.directory = g.directory := by
            intro f hf
            rcases List.mem_cons.1 hf with rfl | hf
            · exact ⟨_, List.mem_cons_self, rfl⟩
            · exact ⟨f, List.mem_cons_of_mem _ hf, rfl⟩
          unfold step
          dsimp only
          cases hc : classify fs cwd ⟨directory, place, name :: pending⟩ name with
          | error e => exact Or.inl ⟨rfl, hstays⟩
          | ok kind =>
              cases kind with
              | other => exact Or.inl ⟨rfl, hstays⟩
              | file =>
                  dsimp only
                  split_ifs
                  · exact Or.inr ⟨_, List.mem_cons_self, name, Or.inl ⟨hc, rfl, hstays⟩⟩
                  · exact Or.inl ⟨rfl, hstays⟩
              | directory q =>
                  dsimp only
                  split_ifs with hexcluded hcycle
                  · exact Or.inl ⟨rfl, hstays⟩
                  · exact Or.inl ⟨rfl, hstays⟩
                  · refine Or.inr ⟨_, List.mem_cons_self, name, Or.inr ⟨q, hc, by simpa using hexcluded, rfl, ?_⟩⟩
                    intro f hf
                    rcases List.mem_cons.1 hf with rfl | hf
                    · exact Or.inl rfl
                    · exact Or.inr (hstays f hf)

/-- What is a file or a directory has a plain name. -/
theorem isPlainName_of_classify {kind : Kind} (hn : fs.WellNamed) (h : classify fs cwd frame name = .ok kind)
    (hk : kind ≠ .other) : IsPlainName name := by
  unfold classify at h
  cases hm : fs.node? (name :: frame.place) with
  | none =>
      rw [hm] at h
      exact absurd (Except.ok.inj h).symm hk
  | some node => exact hn _ _ hm name List.mem_cons_self

/-! ### Walks -/

/-- The directories that a walk goes into: the root and, from there, directories that are not excluded. -/
inductive Entered (r : Restriction) (root : Pathname) : Pathname → Prop
  | root (h : r.excludes root = false) : Entered r root root
  | child {directory : Pathname} {name : Filename} (hd : Entered r root directory) (hn : IsPlainName name)
      (h : r.excludes (child directory name) = false) : Entered r root (child directory name)

theorem Entered.excludes_eq (h : Entered r root directory) : r.excludes directory = false := by
  cases h with
  | root h => exact h
  | child _ _ h => exact h

theorem Entered.extends_root (h : Entered r root directory) : Extends root directory := by
  induction h with
  | root => exact Pathname.extends_refl root
  | @child directory name _ _ _ ih => exact ih.child name

theorem Entered.isTidy {anchor : Anchor} (h : Entered r root directory) (ht : IsTidy anchor root) :
    IsTidy anchor directory := by
  induction h with
  | root => exact ht
  | child _ hn _ ih => exact ih.child hn.ne_nil hn.slash_notMem

/-- The walk is inside of directories it may go into, and has found files in such directories only. -/
structure Keeps (r : Restriction) (root : Pathname) (s : State) : Prop where
  frames : ∀ f ∈ s.frames, Entered r root f.directory
  entries : ∀ e ∈ s.entries, ∃ directory name, Entered r root directory ∧ IsPlainName name ∧ e = child directory name

theorem Keeps.step (hn : fs.WellNamed) (h : Keeps r root s) : Keeps r root (step fs cwd r suffixes s) := by
  have hstays : ∀ {s' : State}, Stays s s' → ∀ f ∈ s'.frames, Entered r root f.directory := by
    intro s' hs f hf
    obtain ⟨g, hg, he⟩ := hs f hf
    rw [he]
    exact h.frames g hg
  rcases step_cases s with ⟨he, hs⟩ | ⟨frame, hframe, name, ⟨hc, he, hs⟩ | ⟨place, hc, hx, he, hs⟩⟩
  · exact ⟨hstays hs, he ▸ h.entries⟩
  · refine ⟨hstays hs, fun e hmem => ?_⟩
    rw [he] at hmem
    rcases List.mem_append.1 hmem with hmem | hmem
    · exact h.entries e hmem
    · exact ⟨_, name, h.frames frame hframe, isPlainName_of_classify hn hc (by simp), List.mem_singleton.1 hmem⟩
  · refine ⟨fun f hf => ?_, he ▸ h.entries⟩
    rcases hs f hf with hd | ⟨g, hg, hd⟩
    · rw [hd]
      exact (h.frames frame hframe).child (isPlainName_of_classify hn hc (by simp)) hx
    · rw [hd]
      exact h.frames g hg

/-- What every step keeps is kept by walks. -/
theorem run_of_step {P : State → Prop} (hstep : ∀ s, P s → P (step fs cwd r suffixes s)) (h : P s) (bound : Nat) :
    P (run fs cwd r suffixes bound s) := by
  induction bound generalizing s with
  | zero => exact h
  | succ bound ih =>
      rw [run]
      split_ifs
      · exact h
      · exact ih (hstep s h)

theorem Keeps.run (hn : fs.WellNamed) (h : Keeps r root s) (bound : Nat) : Keeps r root (run fs cwd r suffixes bound s) :=
  run_of_step (fun _ hs => hs.step hn) h bound

/-- An indexed file lies in a directory that the walk may go into. -/
theorem entered_of_mem_index (hn : fs.WellNamed) (h : path ∈ (index fs cwd r suffixes root).1) :
    Pathname.isAbsolute root = true ∧
      ∃ directory name, Entered r root directory ∧ IsPlainName name ∧ path = child directory name := by
  unfold index at h
  split_ifs at h with ha hx hnul
  · cases h
  · cases h
  · cases h
  cases hl : fs.locate cwd true root with
  | error e =>
      rw [hl] at h
      cases h
  | ok place =>
      rw [hl] at h
      dsimp only at h
      split_ifs at h
      · have hstart : Keeps r root (enter fs cwd root place ⟨[], [], []⟩) := by
          refine ⟨fun f hf => ?_, fun e he => absurd he List.not_mem_nil⟩
          rw [List.mem_singleton.1 hf]
          exact .root (by simpa using hx)
        exact ⟨by simpa using ha, (hstart.run hn _).entries path h⟩
      · cases h

/-- The path of an entry of a directory that is gone into: the root, a slash, and the names from there on. -/
theorem Entered.child_eq (h : Entered r root directory) (hn : IsPlainName name) :
    ∃ names, names ≠ [] ∧ (∀ x ∈ names, IsPlainName x) ∧
      Pathname.child directory name = root ++ slash :: LexicalPath.joinNames names := by
  induction h generalizing name with
  | root h => exact ⟨[name], List.cons_ne_nil _ _, by simpa using hn, rfl⟩
  | @child directory outer hd houter h ih =>
      obtain ⟨names, hne, hplain, heq⟩ := ih houter
      refine ⟨names ++ [name], List.append_ne_nil_of_left_ne_nil hne _, fun x hx => ?_, ?_⟩
      · rcases List.mem_append.1 hx with hx | hx
        · exact hplain x hx
        · rw [List.mem_singleton.1 hx]
          exact hn
      · rw [Pathname.child, heq, LexicalPath.joinNames_append hne, List.append_assoc, List.cons_append]

/-- An indexed file by its names below the root. -/
theorem eq_of_mem_index (hn : fs.WellNamed) (h : path ∈ (index fs cwd r suffixes root).1) :
    ∃ names, names ≠ [] ∧ (∀ x ∈ names, IsPlainName x) ∧ path = root ++ slash :: LexicalPath.joinNames names := by
  obtain ⟨-, directory, name, hd, hname, rfl⟩ := entered_of_mem_index hn h
  exact hd.child_eq hname

/-! ### Restrictions that exclude the same -/

theorem step_congr (h : ∀ f ∈ s.frames, ∀ name, r.excludes (child f.directory name) = r'.excludes (child f.directory name)) :
    step fs cwd r suffixes s = step fs cwd r' suffixes s := by
  obtain ⟨frames, entries, notes⟩ := s
  cases frames with
  | nil => rfl
  | cons frame outer =>
      obtain ⟨directory, place, pending⟩ := frame
      cases pending with
      | nil => rfl
      | cons name pending =>
          have hx := h _ List.mem_cons_self name
          unfold step
          dsimp only at hx ⊢
          rw [hx]

/-- Restrictions that exclude the same directories below a root give the same walk from there. -/
theorem run_congr (h : ∀ directory, Extends root directory → r.excludes directory = r'.excludes directory)
    (hs : ∀ f ∈ s.frames, Extends root f.directory) (bound : Nat) :
    run fs cwd r suffixes bound s = run fs cwd r' suffixes bound s := by
  induction bound generalizing s with
  | zero => rfl
  | succ bound ih =>
      have hstep : step fs cwd r suffixes s = step fs cwd r' suffixes s :=
        step_congr fun f hf name => h _ ((hs f hf).child name)
      rw [run, run, ← hstep]
      split_ifs
      · rfl
      · refine ih fun f hf => ?_
        rcases step_cases s with ⟨-, hstays⟩ | ⟨frame, hframe, name, ⟨-, -, hstays⟩ | ⟨place, -, -, -, hstays⟩⟩
        · obtain ⟨g, hg, he⟩ := hstays f hf
          exact he ▸ hs g hg
        · obtain ⟨g, hg, he⟩ := hstays f hf
          exact he ▸ hs g hg
        · rcases hstays f hf with he | ⟨g, hg, he⟩
          · exact he ▸ (hs frame hframe).child name
          · exact he ▸ hs g hg

theorem index_congr (h : ∀ directory, Extends root directory → r.excludes directory = r'.excludes directory) :
    index fs cwd r suffixes root = index fs cwd r' suffixes root := by
  unfold index
  rw [h root (Pathname.extends_refl root)]
  split_ifs
  · rfl
  · rfl
  · rfl
  · cases fs.locate cwd true root with
    | error e => rfl
    | ok place =>
        dsimp only
        rw [run_congr h]
        intro f hf
        rw [List.mem_singleton.1 hf]
        exact Pathname.extends_refl root

/-! ### The working tree -/

/-- A path lies below a directory, by its names. -/
def Below (p : LexicalPath) (path : Pathname) : Prop := p.names <+: steps path ∧ p.names ≠ steps path

/-- A path lies below the working tree and below none of the allowed zones. -/
def Strays (wt : LexicalPath) (zones : List LexicalPath) (path : Pathname) : Prop :=
  Below wt path ∧ ∀ z ∈ zones, ¬Below z path

/-- The restriction of a walk to what is outside of a working tree or in an allowed zone. -/
def restricted (wt : LexicalPath) (zones : List LexicalPath) : Restriction :=
  ⟨true, wt.spelling, zones.map LexicalPath.spelling⟩

/-- No restriction. -/
def free : Restriction := ⟨false, [], []⟩

/-- From an untidy root that is not within the working tree, nothing is excluded. -/
theorem index_eq_free (hw : wt.Normal) (ht : ¬IsTidy wt.anchor root) (hroot : isWithin root wt.spelling = false) :
    index fs cwd (restricted wt zones) suffixes root = index fs cwd free suffixes root := by
  by_cases ha : Pathname.isAbsolute root = true
  · refine index_congr fun directory hd => ?_
    have hwithin : isWithin directory wt.spelling = false := by
      cases h : isWithin directory wt.spelling with
      | false => rfl
      | true => exact absurd (Pathname.isTidy_of_isWithin hw ha hd hroot h) ht
    simp [Restriction.excludes, restricted, free, hwithin]
  · unfold index
    simp [ha]

/-- A directory within the working tree is entered for a zone, so what is in it does not stray. -/
theorem Entered.isWithin_eq_false (h : Entered (restricted wt zones) root directory) (hz : ∀ z ∈ zones, z.Normal)
    (hname : IsPlainName name) (hs : Strays wt zones (Pathname.child directory name)) :
    isWithin directory wt.spelling = false := by
  cases hin : isWithin directory wt.spelling with
  | false => rfl
  | true =>
      have hx := h.excludes_eq
      simp only [Restriction.excludes, restricted, hin, Bool.and_self, Bool.true_and, Bool.not_eq_false'] at hx
      obtain ⟨_, hspelled, hzone⟩ := List.any_eq_true.1 hx
      obtain ⟨z, hmem, rfl⟩ := List.mem_map.1 hspelled
      have hprefix := Pathname.prefix_of_isWithin (hz z hmem) hzone
      have hsteps : steps (Pathname.child directory name) = steps directory ++ [name] :=
        Pathname.steps_child hname.ne_nil hname.slash_notMem
      refine absurd ⟨hsteps ▸ hprefix.trans (List.prefix_append _ _), fun heq => ?_⟩ (hs.2 z hmem)
      have := hprefix.length_le
      rw [heq, hsteps, List.length_append, List.length_singleton] at this
      omega

/-- A file that strays comes from an untidy root that is not within the working tree. -/
theorem untidy_of_strays (hn : fs.WellNamed) (hw : wt.Normal) (hz : ∀ z ∈ zones, z.Normal)
    (h : path ∈ (index fs cwd (restricted wt zones) suffixes root).1) (hs : Strays wt zones path) :
    ¬IsTidy wt.anchor root ∧ isWithin root wt.spelling = false := by
  obtain ⟨ha, directory, name, he, hname, rfl⟩ := entered_of_mem_index hn h
  have hdir := he.extends_root.isAbsolute ha
  have houtside := he.isWithin_eq_false hz hname hs
  have hnames : wt.names <+: steps directory := by
    obtain ⟨hbelow, hne⟩ := hs.1
    rw [Pathname.steps_child hname.ne_nil hname.slash_notMem] at hbelow hne
    rcases List.prefix_concat_iff.1 hbelow with heq | hbelow
    · exact absurd heq hne
    · exact hbelow
  constructor
  · intro ht
    rw [(he.isTidy ht).isWithin_of_names hw hdir hnames] at houtside
    cases houtside
  · cases hroot : isWithin root wt.spelling with
    | false => rfl
    | true =>
        rw [Pathname.isWithin_mono he.extends_root hroot] at houtside
        cases houtside

/-- A restricted walk from a tidy root never strays. -/
theorem not_strays_of_isTidy (hn : fs.WellNamed) (hw : wt.Normal) (hz : ∀ z ∈ zones, z.Normal)
    (ht : IsTidy wt.anchor root) (h : path ∈ (index fs cwd (restricted wt zones) suffixes root).1) :
    ¬Strays wt zones path :=
  fun hs => (untidy_of_strays hn hw hz h hs).1 ht

/-- When a restricted walk strays into the working tree: the slashes of its root do not stand as in the path of
the working tree, the root is not spelled within it, and there is a file to stray to. -/
theorem index_strays_iff (hn : fs.WellNamed) (hw : wt.Normal) (hz : ∀ z ∈ zones, z.Normal) :
    (∃ path ∈ (index fs cwd (restricted wt zones) suffixes root).1, Strays wt zones path) ↔
      ¬IsTidy wt.anchor root ∧ isWithin root wt.spelling = false ∧
        ∃ path ∈ (index fs cwd free suffixes root).1, Strays wt zones path := by
  constructor
  · rintro ⟨path, hmem, hs⟩
    obtain ⟨ht, hroot⟩ := untidy_of_strays hn hw hz hmem hs
    rw [index_eq_free hw ht hroot] at hmem
    exact ⟨ht, hroot, path, hmem, hs⟩
  · rintro ⟨ht, hroot, path, hmem, hs⟩
    rw [← index_eq_free hw ht hroot] at hmem
    exact ⟨path, hmem, hs⟩

/-- A file system with one module, in a project. -/
def sampleTree : FileSystem :=
  let t : Timestamp := ⟨10, 0⟩
  let fs := (FileSystem.empty t).put [Pathname.ofText "app"] (Node.newDirectory t)
  fs.put [Pathname.ofText "main.rb", Pathname.ofText "app"] (Node.newFile [] t)

/-- A walk from the root of the file system indexes the module of the project. -/
theorem index_strays_sample :
    ∃ path ∈ (index sampleTree [] (restricted ⟨.root, [Pathname.ofText "app"]⟩ []) [Pathname.ofText ".rb"] [slash]).1,
      Strays ⟨.root, [Pathname.ofText "app"]⟩ [] path := by
  have hfree : Pathname.ofText "//app/main.rb" ∈ (index sampleTree [] free [Pathname.ofText ".rb"] [slash]).1 := by
    decide +kernel
  have hstrays : Strays ⟨.root, [Pathname.ofText "app"]⟩ [] (Pathname.ofText "//app/main.rb") :=
    ⟨⟨by decide, by decide⟩, fun _ hz => absurd hz List.not_mem_nil⟩
  exact (index_strays_iff (by decide) (by decide) fun _ hz => absurd hz List.not_mem_nil).2
    ⟨by decide, by decide, _, hfree, hstrays⟩

end Walk

end RequirePath
