import RequirePath.Proofs.File.Entry
import RequirePath.Proofs.File.Named
import RequirePath.Proofs.Walk
import RequirePath.Proofs.Walk.Recursion

/-! What an indexed path names. The walk carries with each directory the place that its path leads to, so the path of
an entry names what the walk has seen there: an indexed path is absolute, has one of the suffixes, and names a file.
This holds for entries of directories that may be read but not searched, and for paths that are too long to be looked
up: such directories have no contents for the walk, but may be entries themselves. -/

namespace RequirePath

/-- The names of entries are as short as names can be. -/
def FileSystem.ShortNamed (fs : FileSystem) : Prop :=
  ∀ q n, fs.node? q = some n → ∀ x ∈ q, x.length ≤ FileSystem.nameLimit

instance (fs : FileSystem) : Decidable fs.ShortNamed :=
  decidable_of_iff (∀ e ∈ fs.nodes, ∀ x ∈ e.1, x.length ≤ FileSystem.nameLimit)
    ⟨fun h q n hn => h (q, n) (FileSystem.node?_eq_some_iff.1 hn),
      fun h e he => h e.1 e.2 (FileSystem.node?_eq_some_iff.2 he)⟩

namespace Walk

open FileSystem Pathname

variable {fs : FileSystem} {cwd here place q : Location} {r : Restriction} {suffixes : List Pathname} {n : Node}
variable {directory path : Pathname} {name : Filename} {within : List Location} {follow : Bool} {frame : Frame}

/-- The way to an entry leads over the place of the directory. -/
theorem exists_locate_of_entry (ha : isAbsolute directory = true) (hp : IsEntryPath directory name path)
    (h : fs.locate cwd follow path = .ok q) :
    ∃ d k, fs.locate cwd true directory = .ok d ∧ Leads fs follow k false d [name] (.found q) := by
  obtain ⟨d, k, hd, -, hlast⟩ := leads_of_isEntryPath ha hp (locate_eq_ok_iff.1 h)
  exact ⟨d, k, locate_eq_ok_iff.2 hd, hlast⟩

/-- What is a file or a directory for the walk is so by itself or as what its link leads to. -/
theorem classify_cases {kind : Kind} (h : classify fs cwd frame name = .ok kind) (hk : kind ≠ .other) :
    ∃ q node, fs.node? (name :: frame.place) = some node ∧ kindAt fs q = kind ∧
      (node.isLink = false ∧ q = name :: frame.place ∨
        fs.locate cwd true (tidyChild frame.directory name) = .ok q) := by
  unfold classify at h
  split at h
  · exact absurd (Except.ok.inj h).symm hk
  · next node hnode =>
      split_ifs at h with hlink
      · split at h
        · next q hq => exact ⟨q, node, hnode, Except.ok.inj h, Or.inr hq⟩
        · exact absurd (Except.ok.inj h).symm hk
        · cases h
      · exact ⟨_, node, hnode, Except.ok.inj h, Or.inl ⟨by simpa using hlink, rfl⟩⟩

theorem kindAt_eq_file (h : kindAt fs q = .file) : ∃ n, fs.node? q = some n ∧ n.isFile = true := by
  unfold kindAt at h
  split at h
  · next n hn =>
      split_ifs at h with _ hfile
      exact ⟨n, hn, hfile⟩
  · cases h

theorem locate_of_mem_contents (h : name ∈ (contents fs cwd directory).1) :
    ∃ d, fs.locate cwd true directory = .ok d := by
  rcases contents_cases fs cwd directory with hnone | ⟨d, hlocate, -⟩
  · rw [hnone] at h
    cases h
  · exact ⟨d, hlocate⟩

/-- What the walk takes an entry for is what stands at the place that the path of the entry leads to. -/
theorem exists_realPlace?_of_classify {kind : Kind} (hn : fs.WellNamed) (hs : fs.ShortNamed)
    (ha : isAbsolute directory = true) (hd : fs.locate cwd true directory = .ok here)
    (h : classify fs cwd ⟨directory, here, []⟩ name = .ok kind) (hk : kind ≠ .other) :
    ∃ q, fs.realPlace? (child directory name) = some q ∧ kindAt fs q = kind := by
  have hplain := isPlainName_of_classify hn h hk
  have hchild := isEntryPath_child ha hplain
  obtain ⟨q, node, hnode, hkind, hway⟩ := classify_cases h hk
  refine ⟨q, realPlace?_eq_some_iff.2 ?_, hkind⟩
  rw [hchild.steps, hchild.endsInSlash]
  rcases hway with ⟨hlink, rfl⟩ | hlocate
  · -- the directory need not be one that may be searched
    obtain ⟨-, -, links, hk, hfirst⟩ := resolve_eq_ok_iff.1 (locate_eq_ok_iff.1 hd)
    rw [linkStart, if_pos ha] at hfirst
    have hname : IsEntryName name := ⟨hplain.ne_dot, hplain.ne_dotDot, hs _ _ hnode name List.mem_cons_self⟩
    have hlast : Leads fs.unlocked true 0 false here [name] (.found (name :: here)) :=
      .enter (isOpen_unlocked_iff.2 (isDirectoryAt_parent hnode)) hname
        (by rw [node?_unlocked, hnode]; rfl) (show node.unlocked.isLink = false from hlink) (.arrive (by rintro ⟨⟩))
    exact ⟨links, hk, hfirst.unlock.append hlast (List.cons_ne_nil _ _)⟩
  · have htidy := isEntryPath_tidyChild ha hplain
    obtain ⟨-, -, links, hk, hall⟩ := resolve_eq_ok_iff.1 (locate_eq_ok_iff.1 hlocate)
    rw [htidy.steps, htidy.endsInSlash, linkStart, if_pos htidy.isAbsolute] at hall
    exact ⟨links, hk, hall.unlock⟩

/-- An entry that the walk takes for a file is named by its path. -/
theorem named?_of_classify (hn : fs.WellNamed) (hs : fs.ShortNamed) (ha : isAbsolute directory = true)
    (hd : fs.locate cwd true directory = .ok here) (h : classify fs cwd ⟨directory, here, []⟩ name = .ok .file) :
    ∃ n, fs.named? (child directory name) = some n ∧ n.isFile = true := by
  obtain ⟨q, hq, hkind⟩ := exists_realPlace?_of_classify hn hs ha hd h (by rintro ⟨⟩)
  obtain ⟨n, hnode, hfile⟩ := kindAt_eq_file hkind
  exact ⟨n, (named?_of_realPlace? hq).trans hnode, hfile⟩

/-- A directory that the walk goes into is at the place that the walk takes it to be at. -/
theorem eq_of_locate_child (hn : fs.WellNamed) (ha : isAbsolute directory = true)
    (hd : ∀ d, fs.locate cwd true directory = .ok d → d = here)
    (h : classify fs cwd ⟨directory, here, []⟩ name = .ok (.directory place))
    (hl : fs.locate cwd true (child directory name) = .ok q) : q = place := by
  have hplain := isPlainName_of_classify hn h (by rintro ⟨⟩)
  obtain ⟨q', node, hnode, hkind, hway⟩ := classify_cases h (by rintro ⟨⟩)
  obtain ⟨rfl, -⟩ := kindAt_eq_directory hkind
  obtain ⟨d, k, hdir, hlast⟩ := exists_locate_of_entry ha (isEntryPath_child ha hplain) hl
  obtain rfl := hd d hdir
  rcases hway with ⟨hlink, rfl⟩ | hlocate
  · cases hlast with
    | stay => exact absurd rfl hplain.ne_dot
    | climb => exact absurd rfl hplain.ne_dotDot
    | enter ho hname hm hl h =>
        cases h
        rfl
    | halt hf => cases hf
    | jump ho hname hm hl =>
        have hm' := hm.symm.trans hnode
        cases hm'
        rw [isLink_iff.2 ⟨_, hl⟩] at hlink
        cases hlink
  · obtain ⟨d', k', hdir', hlast'⟩ := exists_locate_of_entry ha (isEntryPath_tidyChild ha hplain) hlocate
    obtain rfl := hd d' hdir'
    exact Place.found.inj (hlast.unique hlast')

/-- The files below a directory are named by their paths, which have one of the suffixes. -/
theorem named?_of_mem_files (hn : fs.WellNamed) (hs : fs.ShortNamed) (ha : isAbsolute directory = true)
    (hd : ∀ d, fs.locate cwd true directory = .ok d → d = here)
    (h : path ∈ files fs cwd r suffixes directory here within) :
    isAbsolute path = true ∧ endsInAny path suffixes = true ∧ ∃ n, fs.named? path = some n ∧ n.isFile = true := by
  -- the walk carries that the path of the directory, if it leads anywhere, leads to the place it is inside of
  induction directory, here, within using files.induct fs cwd with
  | case1 directory here within ih =>
      rw [files_eq, List.mem_flatMap] at h
      obtain ⟨name, hname, hpath⟩ := h
      obtain ⟨d, hlocate⟩ := locate_of_mem_contents hname
      obtain rfl := hd d hlocate
      rcases filesOfEntry_cases hpath with ⟨hc, rfl, hends⟩ | ⟨place, hc, hwithin, hbelow⟩
      · have hplain := isPlainName_of_classify hn hc (by rintro ⟨⟩)
        exact ⟨(isEntryPath_child ha hplain).isAbsolute, hends, named?_of_classify hn hs ha hlocate hc⟩
      · have hplain := isPlainName_of_classify hn hc (by rintro ⟨⟩)
        exact ih name place hc hwithin (isEntryPath_child ha hplain).isAbsolute
          (fun q hq => eq_of_locate_child hn ha hd hc hq) hbelow

/-- An indexed path is absolute, has one of the suffixes, and names a file. -/
theorem named?_of_mem_index {root : Pathname} (hn : fs.WellNamed) (hs : fs.ShortNamed)
    (h : path ∈ (index fs cwd r suffixes root).1) :
    isAbsolute path = true ∧ endsInAny path suffixes = true ∧ ∃ n, fs.named? path = some n ∧ n.isFile = true := by
  rw [index_eq_files] at h
  split_ifs at h with hstart
  · simp only [Bool.and_eq_true] at hstart
    split at h
    · next place hl =>
        refine named?_of_mem_files hn hs hstart.1.1 (fun d hd => ?_) h
        exact Except.ok.inj (hd.symm.trans hl)
    · cases h
  · cases h

end Walk

end RequirePath
