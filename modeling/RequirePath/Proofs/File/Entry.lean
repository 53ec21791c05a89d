import RequirePath.Proofs.File.Changes
import RequirePath.Proofs.Path.Child

/-! Paths of entries in a file system: their way goes through the directory that the entry lies in. What the path of
an entry leads to, its link not followed, is told by the node under its name in that directory. -/

namespace RequirePath.FileSystem

variable {fs fs' : FileSystem} {cwd d e q place : Location} {name other : Filename} {p : LexicalPath} {pl : Place}
variable {n node : Node} {now : Timestamp} {directory path : Pathname} {follow : Bool}

/-- A path leads to an open directory. -/
def OpensAt (fs : FileSystem) (cwd : Location) (p : LexicalPath) (d : Location) : Prop :=
  fs.resolve cwd true p.spelling = .ok (.found d) ∧ fs.IsOpen d

theorem OpensAt.unique (h : fs.OpensAt cwd p d) (h' : fs.OpensAt cwd p e) : d = e := by
  have := h.1.symm.trans h'.1
  cases this
  rfl

theorem OpensAt.grow (h : fs.OpensAt cwd p d) (hg : Grows fs fs') : fs'.OpensAt cwd p d :=
  ⟨resolve_grow hg h.1, h.2.grow hg⟩

/-- The way of an entry goes through the directory that it lies in. -/
theorem leads_of_isEntryPath (ha : Pathname.isAbsolute directory = true)
    (hpath : Pathname.IsEntryPath directory name path) (h : fs.resolve cwd follow path = .ok pl) :
    ∃ d links, fs.resolve cwd true directory = .ok (.found d) ∧ fs.IsOpen d ∧
      Leads fs follow links false d [name] pl := by
  obtain ⟨-, hlen, links, hk, hway⟩ := resolve_eq_ok_iff.1 h
  rw [hpath.steps, hpath.endsInSlash, linkStart, if_pos hpath.isAbsolute] at hway
  obtain ⟨d, k, k', hsum, ho, hfirst, hlast⟩ := hway.split (List.cons_ne_nil _ _)
  have hne : directory ≠ [] := by
    rintro rfl
    cases ha
  refine ⟨d, k', resolve_eq_ok_iff.2 ⟨hne, Nat.le_trans hpath.length_le hlen, k, by omega, ?_⟩, ho, hlast⟩
  rw [linkStart, if_pos ha]
  exact hfirst _

/-- The path of an entry of an open directory leads to the entry, whether one slash stands before the name or two. -/
theorem resolve_of_isEntryPath (ha : Pathname.isAbsolute directory = true)
    (hd : fs.resolve cwd true directory = .ok (.found d)) (ho : fs.IsOpen d) (hn : IsPlainName name)
    (hpath : Pathname.IsEntryPath directory name path) (hname : name.length ≤ nameLimit) (hlen : path.length ≤ pathLimit) :
    fs.resolve cwd false path = .ok (fs.entry d name) := by
  obtain ⟨-, -, k, hk, hway⟩ := resolve_eq_ok_iff.1 hd
  have hne : path ≠ [] := by
    rintro rfl
    cases hpath.isAbsolute
  refine resolve_eq_ok_iff.2 ⟨hne, hlen, k, hk, ?_⟩
  rw [linkStart, if_pos ha] at hway
  rw [hpath.steps, hpath.endsInSlash, linkStart, if_pos hpath.isAbsolute]
  have hlast : Leads fs false 0 false d [name] (fs.entry d name) :=
    (leads_single_iff hn.ne_dot hn.ne_dotDot).2 ⟨rfl, ho, ⟨hn.ne_dot, hn.ne_dotDot, hname⟩, rfl⟩
  exact hway.append hlast (List.cons_ne_nil _ _)

/-! ### Entries of normal paths -/

theorem leads_entry (hp : p.Normal) (hn : IsPlainName name)
    (h : fs.resolve cwd follow (p.entry name).spelling = .ok pl) :
    ∃ d links, fs.OpensAt cwd p d ∧ Leads fs follow links false d [name] pl := by
  obtain ⟨d, links, hd, ho, hlast⟩ :=
    leads_of_isEntryPath (LexicalPath.isAbsolute_spelling hp) (Pathname.isEntryPath_entry hp hn) h
  exact ⟨d, links, ⟨hd, ho⟩, hlast⟩

/-- The path of an entry, its link not followed, leads to the entry of the directory that the path opens. -/
theorem resolve_entry_iff (hp : p.Normal) (hn : IsPlainName name) :
    fs.resolve cwd false (p.entry name).spelling = .ok pl ↔
      (p.entry name).spelling.length ≤ pathLimit ∧ name.length ≤ nameLimit ∧
        ∃ d, fs.OpensAt cwd p d ∧ pl = fs.entry d name := by
  constructor
  · intro h
    obtain ⟨-, hlen, -⟩ := resolve_eq_ok_iff.1 h
    obtain ⟨d, links, hd, hlast⟩ := leads_entry hp hn h
    obtain ⟨-, -, hname, hpl⟩ := (leads_single_iff hn.ne_dot hn.ne_dotDot).1 hlast
    exact ⟨hlen, hname.2.2, d, hd, hpl⟩
  · rintro ⟨hlen, hname, d, ⟨hd, ho⟩, rfl⟩
    have hpath := Pathname.isEntryPath_entry hp hn
    exact resolve_of_isEntryPath (LexicalPath.isAbsolute_spelling hp) hd ho hn hpath hname hlen

theorem resolve_entry_vacant (hp : p.Normal) (hn : IsPlainName name)
    (h : fs.resolve cwd false (p.entry name).spelling = .ok (.vacant d other)) :
    other = name ∧ fs.OpensAt cwd p d ∧ fs.node? (name :: d) = none := by
  obtain ⟨-, -, e, he, hpl⟩ := (resolve_entry_iff hp hn).1 h
  unfold entry at hpl
  split at hpl
  · cases hpl
  · next hv =>
      cases hpl
      exact ⟨rfl, he, by simpa using hv⟩

/-- The node of an entry, its link not followed. -/
theorem linkStatus_entry_iff (hp : p.Normal) (hn : IsPlainName name) :
    fs.linkStatus cwd (p.entry name).spelling = .ok n ↔
      (p.entry name).spelling.length ≤ pathLimit ∧ name.length ≤ nameLimit ∧
        ∃ d, fs.OpensAt cwd p d ∧ fs.node? (name :: d) = some n := by
  rw [linkStatus_eq_ok_iff]
  constructor
  · rintro ⟨q, hq, hnode⟩
    obtain ⟨hlen, hname, d, hd, hpl⟩ := (resolve_entry_iff hp hn).1 hq
    refine ⟨hlen, hname, d, hd, ?_⟩
    unfold entry at hpl
    split at hpl
    · cases hpl
      exact hnode
    · cases hpl
  · rintro ⟨hlen, hname, d, hd, hnode⟩
    refine ⟨name :: d, (resolve_entry_iff hp hn).2 ⟨hlen, hname, d, hd, ?_⟩, hnode⟩
    simp [entry, hnode]

/-- A path opens a directory in which a way with its link followed goes on. -/
theorem OpensAt.of_entry (hp : p.Normal) (hn : IsPlainName name)
    (h : fs.resolve cwd follow (p.entry name).spelling = .ok pl) : ∃ d, fs.OpensAt cwd p d := by
  obtain ⟨d, -, hd, -⟩ := leads_entry hp hn h
  exact ⟨d, hd⟩

/-! ### Nodes at the paths of entries -/

/-- The node of a path, its link not followed, is the same, or there is none as before. -/
def SameEntry (fs fs' : FileSystem) (cwd : Location) (path : Pathname) : Prop :=
  ∀ n, fs'.linkStatus cwd path = .ok n ↔ fs.linkStatus cwd path = .ok n

theorem sameEntry_refl (fs : FileSystem) (path : Pathname) : SameEntry fs fs cwd path := fun _ => Iff.rfl

theorem SameEntry.trans {fs'' : FileSystem} {path : Pathname} (h : SameEntry fs fs' cwd path)
    (h' : SameEntry fs' fs'' cwd path) : SameEntry fs fs'' cwd path := fun n => (h' n).trans (h n)

theorem SameEntry.toOption_eq {path : Pathname} (h : SameEntry fs fs' cwd path) :
    (fs'.linkStatus cwd path).toOption = (fs.linkStatus cwd path).toOption := by
  have hiff : ∀ {fs : FileSystem} {n : Node}, (fs.linkStatus cwd path).toOption = some n ↔
      fs.linkStatus cwd path = .ok n := by
    intro fs n
    cases fs.linkStatus cwd path <;> simp [Except.toOption]
  refine Option.ext fun n => ?_
  rw [hiff, hiff]
  exact h n

/-- What the path of an entry leads to is the same if the directory stays and the node under the name does. -/
theorem sameEntry_of_node? (hp : p.Normal) (hn : IsPlainName name) (hd : fs.OpensAt cwd p d)
    (hd' : fs'.OpensAt cwd p d) (h : fs'.node? (name :: d) = fs.node? (name :: d)) :
    SameEntry fs fs' cwd (p.entry name).spelling := by
  intro n
  rw [linkStatus_entry_iff hp hn, linkStatus_entry_iff hp hn]
  constructor
  · rintro ⟨hlen, hname, e, he, hnode⟩
    rw [← hd'.unique he, h] at hnode
    exact ⟨hlen, hname, d, hd, hnode⟩
  · rintro ⟨hlen, hname, e, he, hnode⟩
    rw [← hd.unique he, ← h] at hnode
    exact ⟨hlen, hname, d, hd', hnode⟩

/-- A node that is added to a directory leaves its other entries as they were. -/
theorem Adds.sameEntry (h : Adds fs fs' d other node now) (hp : p.Normal) (hn : IsPlainName name)
    (hd : fs.OpensAt cwd p d) (hne : name ≠ other) : SameEntry fs fs' cwd (p.entry name).spelling := by
  refine sameEntry_of_node? hp hn hd (hd.grow h.keeps.grows) (h.node?_of_ne ?_ (List.cons_ne_self _ _))
  intro he
  exact hne (List.cons.inj he).1

/-- A directory that a path did not open, and that has nothing in it if it opens it now. -/
def BareAnew (fs fs' : FileSystem) (cwd : Location) (p : LexicalPath) : Prop :=
  (∀ d, ¬fs.OpensAt cwd p d) ∧ ∀ d, fs'.OpensAt cwd p d → ∀ name, fs'.node? (name :: d) = none

theorem BareAnew.sameEntry (h : BareAnew fs fs' cwd p) (hp : p.Normal) (hn : IsPlainName name) :
    SameEntry fs fs' cwd (p.entry name).spelling := by
  intro n
  rw [linkStatus_entry_iff hp hn, linkStatus_entry_iff hp hn]
  constructor
  · rintro ⟨-, -, d, hd, hnode⟩
    rw [h.2 d hd name] at hnode
    cases hnode
  · rintro ⟨-, -, d, hd, -⟩
    exact absurd hd (h.1 d)

/-- Nothing opens in a directory that is not there or bare. -/
theorem BareAnew.entry (h : BareAnew fs fs' cwd p) (hp : p.Normal) (hn : IsPlainName name) :
    BareAnew fs fs' cwd (p.entry name) := by
  refine ⟨fun e he => ?_, fun e he => ?_⟩
  · obtain ⟨d, hd⟩ := OpensAt.of_entry hp hn he.1
    exact absurd hd (h.1 d)
  · obtain ⟨d, links, hd, hway⟩ := leads_entry hp hn he.1
    have hv : fs'.node? (name :: d) = none := h.2 d hd name
    cases hway with
    | stay => exact absurd rfl hn.ne_dot
    | climb => exact absurd rfl hn.ne_dotDot
    | enter _ _ hm => rw [hv] at hm; cases hm
    | halt _ _ _ hm => rw [hv] at hm; cases hm
    | jump _ _ hm => rw [hv] at hm; cases hm

/-- A path that led to a vacant place opened no directory. -/
theorem not_opensAt_of_vacant (hp : fs.resolve cwd false p.spelling = .ok (.vacant d name)) :
    ¬fs.OpensAt cwd p e := by
  rintro ⟨he, -⟩
  obtain ⟨-, -, k, -, hway⟩ := resolve_eq_ok_iff.1 hp
  obtain ⟨-, -, k', -, hway'⟩ := resolve_eq_ok_iff.1 he
  rcases hway'.unfollow with h | ⟨hm, _, _, x, f, _, _, _, h, -⟩
  · cases hway.unique h
  · rw [hm] at hway
    cases hway.unique h

/-- A directory that is made is bare. -/
theorem Adds.bareAnew {parent : Location} (hv : fs.resolve cwd false p.spelling = .ok (.vacant parent name))
    (hs : endsInSlash p.spelling = false) (h : Adds fs fs' parent name (Node.newDirectory now) now) :
    BareAnew fs fs' cwd p := by
  refine ⟨fun d => not_opensAt_of_vacant hv, fun d hd x => ?_⟩
  obtain ⟨-, -, k, -, hway⟩ := resolve_eq_ok_iff.1 hv
  obtain ⟨-, -, k', -, hway'⟩ := resolve_eq_ok_iff.1 hd.1
  rw [hs] at hway hway'
  have hlink : (Node.newDirectory now).isLink = false := rfl
  have hnew := (hway.fill rfl h.keeps.grows h.node?_new hlink).followed h.node?_new hlink
  cases hnew.unique hway'
  rw [h.node?_of_ne]
  · exact node?_child_eq_none (isDirectoryAt_eq_false h.vacant)
  · exact List.cons_ne_self _ _
  · intro he
    have := congrArg List.length he
    simp only [List.length_cons] at this
    omega

end RequirePath.FileSystem
