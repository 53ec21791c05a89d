import RequirePath.Proofs.Cache.Failure
import RequirePath.Proofs.Cache.Room

/-! What calls leave behind. A record is written to a new file, which is removed if the record is no text, but not if the
system refuses to move it to the path of the cache file: then it stays, though it could be removed. That is the only file
besides the cache file that a call leaves, and in a plain cache directory a load never leaves it. -/

namespace RequirePath

open FileSystem RequirePath.Action

namespace FileSystem

/-- A file or a link is at a place. -/
def HoldsFile (fs : FileSystem) (q : Location) : Prop :=
  ∃ n, fs.node? q = some n ∧ n.isDirectory = false

instance (fs : FileSystem) (q : Location) : Decidable (fs.HoldsFile q) :=
  decidable_of_iff ((fs.node? q).any (fun n => !n.isDirectory) = true) (by simp [HoldsFile, Option.any_eq_true])

variable {fs fs' : FileSystem} {q d : Location} {name : Filename} {node : Node} {now : Timestamp}

theorem Adds.holdsFile (ha : Adds fs fs' d name node now) (hq : fs'.HoldsFile q) : q = name :: d ∨ fs.HoldsFile q := by
  obtain ⟨n, hn, hdir⟩ := hq
  rcases ha.of_node? hn with ⟨hq, -⟩ | ⟨m, hm, hk⟩
  · exact Or.inl hq
  · exact Or.inr ⟨m, hm, by rw [← hk.alike.isDirectory_eq, hdir]⟩

theorem Moves.holdsFile {source place : Location} (hm : Moves fs fs' source place node) (hq : fs'.HoldsFile q) :
    q = place ∨ q ≠ source ∧ fs.HoldsFile q := by
  obtain ⟨n, hn, hdir⟩ := hq
  by_cases hplace : q = place
  · exact Or.inl hplace
  have hsource : q ≠ source := by
    rintro rfl
    rw [hm.node?_source hplace] at hn
    cases hn
  refine Or.inr ⟨hsource, ?_⟩
  cases hold : fs.node? q with
  | none =>
      rw [hm.vacant q hplace hold] at hn
      cases hn
  | some m =>
      obtain ⟨n', hn', hk⟩ := hm.kept q m hplace hsource hold
      obtain rfl : n' = n := Option.some.inj (hn'.symm.trans hn)
      exact ⟨m, hold, by rw [← hk.alike.isDirectory_eq, hdir]⟩

end FileSystem

namespace Cache

variable {c : Config} {l : Loaded} {h h₁ h' : Host} {e : Failure} {q : Location}

theorem holdsFile_of_makePath {p : LexicalPath} {r : Except Failure Unit} (ha : makePath p h = (r, h'))
    (hq : h'.files.HoldsFile q) : h.files.HoldsFile q := by
  obtain ⟨n, hn, hdir⟩ := hq
  exact ⟨n, makePath_new ha hn hdir, hdir⟩

/-- A file with the record of what was found has been moved to where the path of the cache file led. -/
def Placed (c : Config) (l : Loaded) (h' : Host) (q : Location) : Prop :=
  ∃ fs source target record, l.record? = some record ∧
    fs.resolve h'.workingDirectory false c.cacheFilePath.spelling = .ok target ∧ target.location = q ∧
    Moves fs h'.files source q ⟨.file record.encode, Node.privateMode, h'.now⟩

/-- A new file with a record has stayed in the directory of new files, as the system has refused to move it to the path of
the cache file; the directory admits its removal. -/
structure Stranded (c : Config) (h h' : Host) (q : Location) (e : Failure) : Prop where
  isNew : h.files.node? q = none
  record : ∃ (l : Loaded) (record : Record), l.record? = some record ∧
    h'.files.node? q = some ⟨.file record.encode, Node.privateMode, h'.now⟩
  removable : h'.files.mayRemoveAt q = true
  refused : ∃ n, let path := Pathname.tidyChild (temporaryDir c h').spelling (temporaryName n)
    h'.files.resolve h'.workingDirectory false path = .ok (.found q) ∧
      changeFiles c.cacheFilePath.spelling
        (fun k => k.files.rename k.workingDirectory path c.cacheFilePath.spelling k.now) h' = (.error e, h')

theorem Stranded.holdsFile (hs : Stranded c h h' q e) : h'.files.HoldsFile q := by
  obtain ⟨l, record, -, hn⟩ := hs.record
  exact ⟨_, hn, rfl⟩

theorem Placed.rests (hp : Placed c l h q) (hr : Rests h h') : Placed c l h' q := by
  obtain ⟨fs, source, target, record, hl, ht, hq, hm⟩ := hp
  exact ⟨fs, source, target, record, hl, by rwa [hr.continues.workingDirectory], hq, by rwa [hr.files, hr.continues.now]⟩

theorem Stranded.of_grows (hs : Stranded c h₁ h' q e) (hg : Grows h.files h₁.files) : Stranded c h h' q e :=
  { hs with isNew := hg.node?_eq_none hs.isNew }

/-- How a call ends for a file that it leaves: with the file moved to the path of the cache file, or stranded. -/
def Ends (c : Config) (h h' : Host) (r : Except Failure Loaded) (q : Location) : Prop :=
  (∃ l, r = .ok l ∧ Placed c l h' q) ∨ ∃ e, r = .error e ∧ Stranded c h h' q e

theorem Ends.of_grows {r : Except Failure Loaded} (he : Ends c h₁ h' r q) (hg : Grows h.files h₁.files) :
    Ends c h h' r q := by
  rcases he with hplaced | ⟨e, hr, hs⟩
  · exact Or.inl hplaced
  · exact Or.inr ⟨e, hr, hs.of_grows hg⟩

/-! ### Writing a record -/

/-- A file after the writing of a record was there before, or is the cache file, or is stranded. -/
theorem writeRecord_files {r : Except Failure Unit} (ha : writeRecord c l h = (r, h')) (hq : h'.files.HoldsFile q) :
    h.files.HoldsFile q ∨ r = .ok () ∧ Placed c l h' q ∨ ∃ e, r = .error e ∧ Stranded c h h' q e := by
  obtain ⟨r₁, s₁, h₁, ⟨rfl, -⟩ | ⟨r₂, s₂, h₂, ⟨rfl, -⟩ | ⟨fs₁, d, name, -, -, hmade, hinstall⟩⟩⟩ := writeRecord_cases ha
  · exact Or.inl (holdsFile_of_makePath h₁ hq)
  · exact Or.inl (holdsFile_of_makePath h₁ (holdsFile_of_makePath h₂ hq))
  have hbefore (hold : s₂.files.HoldsFile q) : h.files.HoldsFile q :=
    holdsFile_of_makePath h₁ (holdsFile_of_makePath h₂ hold)
  have hgrows : Grows h.files s₂.files := ((makePath_keeps h₁).2.trans (makePath_keeps h₂).2).grows
  cases hl : l.record? with
  | none =>
      -- the new file is removed, and its directory is no file
      obtain ⟨-, -, hkeeps, hsame⟩ := installRecord_none hmade hl hinstall
      obtain ⟨n, hn, hdir⟩ := hq
      have hne : q ≠ d := by
        rintro rfl
        obtain ⟨m, hm, hmdir⟩ := isDirectoryAt_iff.1 hmade.adds.isOpen.1
        obtain ⟨m', hm', hk⟩ := hkeeps q m hm
        obtain rfl : m' = n := Option.some.inj (hm'.symm.trans hn)
        rw [hk.alike.isDirectory_eq, hmdir] at hdir
        cases hdir
      rw [hsame q hne] at hn
      exact Or.inl (hbefore ⟨n, hn, hdir⟩)
  | some record =>
      obtain ⟨fs₂, hfill, hmove⟩ := installRecord_some hmade hl hinstall
      cases r with
      | error e =>
          obtain rfl : h' = { s₂ with files := fs₂ } := changeFiles_error hmove
          rcases hfill.adds.holdsFile hq with rfl | hold
          · obtain ⟨n, hn⟩ := freshName_eq s₂ (temporaryDir c s₂).spelling
            refine Or.inr (Or.inr ⟨e, rfl, hgrows.node?_eq_none hfill.adds.vacant, ⟨l, record, hl, hfill.adds.node?_new⟩,
              hfill.adds.mayRemoveAt, n, ?_⟩)
            have hpath : temporaryPath c s₂ = Pathname.tidyChild (temporaryDir c s₂).spelling (temporaryName n) := by
              rw [← hn]
              rfl
            exact ⟨hpath ▸ hfill.found, hpath ▸ hmove⟩
          · exact Or.inl (hbefore hold)
      | ok u =>
          obtain ⟨record', fs₃, target, hl', hfill', ht, -, hmoves⟩ := installRecord_ok hmade hinstall
          obtain ⟨-, _, -, hresult⟩ := changeFiles_ok hmove
          rcases hmoves.holdsFile hq with rfl | ⟨hne, hold⟩
          · refine Or.inr (Or.inl ⟨rfl, fs₃, name :: d, target, record', hl', ?_, rfl, ?_⟩)
            · rwa [hresult]
            · rwa [show h'.now = s₂.now by rw [hresult]]
          · exact Or.inl (hbefore ((hfill'.adds.holdsFile hold).resolve_left hne))

/-- A file after a rebuild was there before, or is the cache file, or is stranded. -/
theorem rebuild_files {r : Except Failure Loaded} (hc : h.LogsToConsole) (ha : rebuild c h = (r, h'))
    (hq : h'.files.HoldsFile q) : h.files.HoldsFile q ∨ Ends c h h' r q := by
  rcases rebuild_cases hc ha with ⟨hr, -⟩ | ⟨l, s₁, r₂, s₂, hr, -, hw, hend⟩
  · exact Or.inl (hr.files ▸ hq)
  have hgrows : Grows h.files s₁.files := by
    rw [hr.files]
    exact grows_refl _
  rcases hend with ⟨e, rfl, rfl, rfl⟩ | ⟨rfl, rfl, hr'⟩
  · rcases writeRecord_files hw hq with hold | ⟨he, -⟩ | ⟨e', he, hs⟩
    · exact Or.inl (hr.files ▸ hold)
    · cases he
    · cases he
      exact Or.inr (Or.inr ⟨e, rfl, hs.of_grows hgrows⟩)
  · rw [hr'.files] at hq
    rcases writeRecord_files hw hq with hold | ⟨-, hplaced⟩ | ⟨e', he, -⟩
    · exact Or.inl (hr.files ▸ hold)
    · exact Or.inr (Or.inl ⟨l, rfl, hplaced.rests hr'⟩)
    · cases he

/-! ### Loading -/

/-- The placeholder is written where the path of the cache file leads once the directories are made. -/
def HoldsPlaceholder (c : Config) (h : Host) (q : Location) : Prop :=
  let h₂ := (makePath c.compilerCachePath (makePath c.cacheDirPath h).2).2
  (∃ h', ensureCacheFile c h = (.ok false, h')) ∧
    ∃ p, h₂.files.resolve h₂.workingDirectory true c.cacheFilePath.spelling = .ok p ∧ p.location = q

theorem write_holdsFile {fs fs' : FileSystem} {cwd : Location} {path : Pathname} {bytes : List UInt8} {now : Timestamp}
    (hw : fs.write cwd path bytes now = .ok fs') (hq : fs'.HoldsFile q) :
    fs.HoldsFile q ∨ ∃ p, fs.resolve cwd true path = .ok p ∧ p.location = q := by
  rcases write_ok hw with ⟨d, name, hv, -, hadds⟩ | ⟨place, n, hp, hwrites⟩
  · rcases hadds.holdsFile hq with rfl | hold
    · exact Or.inr ⟨_, hv, rfl⟩
    · exact Or.inl hold
  · obtain ⟨m, hm, hdir⟩ := hq
    rw [hwrites.node?_eq] at hm
    split_ifs at hm with hplace
    · exact Or.inr ⟨_, hp, hplace.symm⟩
    · exact Or.inl ⟨m, hm, hdir⟩

/-- A file after the check of the cache file was there before, or holds the placeholder. -/
theorem ensureCacheFile_files {r : Except Failure Bool} (ha : ensureCacheFile c h = (r, h')) (hq : h'.files.HoldsFile q) :
    h.files.HoldsFile q ∨ HoldsPlaceholder c h q := by
  rcases ensureCacheFile_cases ha with ⟨rfl, -⟩ | ⟨rfl, -⟩ | ⟨-, hp⟩
  · exact Or.inl hq
  · exact Or.inl hq
  obtain ⟨r₁, s₁, h₁, ⟨rfl, -⟩ | ⟨r₂, s₂, h₂, ⟨rfl, -⟩ | ⟨fs, -, hw, rfl, rfl⟩⟩⟩ := writePlaceholder_cases hp
  · exact Or.inl (holdsFile_of_makePath h₁ hq)
  · exact Or.inl (holdsFile_of_makePath h₁ (holdsFile_of_makePath h₂ hq))
  rcases write_holdsFile hw hq with hold | hlead
  · exact Or.inl (holdsFile_of_makePath h₁ (holdsFile_of_makePath h₂ hold))
  · refine Or.inr ⟨⟨_, ha⟩, ?_⟩
    rw [h₁, h₂]
    exact hlead

theorem ensureCacheFile_grows {r : Except Failure Bool} (ha : ensureCacheFile c h = (r, h')) :
    Grows h.files h'.files := by
  rcases ensureCacheFile_cases ha with ⟨rfl, -⟩ | ⟨rfl, -⟩ | ⟨-, hp⟩
  · exact grows_refl _
  · exact grows_refl _
  obtain ⟨r₁, s₁, h₁, ⟨rfl, -⟩ | ⟨r₂, s₂, h₂, ⟨rfl, -⟩ | ⟨fs, -, hw, rfl, -⟩⟩⟩ := writePlaceholder_cases hp
  · exact (makePath_keeps h₁).2.grows
  · exact ((makePath_keeps h₁).2.trans (makePath_keeps h₂).2).grows
  · exact ((makePath_keeps h₁).2.trans (makePath_keeps h₂).2).grows.trans (write_grows hw)

theorem proceed_files {usable : Bool} {r : Except Failure Loaded} (hc : h.LogsToConsole) (ha : proceed c usable h = (r, h'))
    (hq : h'.files.HoldsFile q) : h.files.HoldsFile q ∨ Ends c h h' r q := by
  rcases proceed_cases hc ha with ⟨hr, -⟩ | ⟨-, hr, -⟩ | ⟨h₁, hpause, hrebuild⟩
  · exact Or.inl (hr.files ▸ hq)
  · exact Or.inl (hr.files ▸ hq)
  · rcases rebuild_files (hpause.continues.logsToConsole hc) hrebuild hq with hold | hend
    · exact Or.inl (hpause.files ▸ hold)
    · refine Or.inr (hend.of_grows ?_)
      rw [hpause.files]
      exact grows_refl _

/-- A file after a load was there before, or holds the placeholder, or is the cache file, or is stranded. -/
theorem loadOrRebuild_files {r : Except Failure Loaded} (hc : h.LogsToConsole) (ha : loadOrRebuild c h = (r, h'))
    (hq : h'.files.HoldsFile q) : h.files.HoldsFile q ∨ HoldsPlaceholder c h q ∨ Ends c h h' r q := by
  rcases loadOrRebuild_cases hc ha with ⟨hr, -⟩ | ⟨-, -, ⟨e, hensure, -⟩ | ⟨usable, h₁, hensure, hproceed⟩⟩
  · exact Or.inl (hr.files ▸ hq)
  · exact (ensureCacheFile_files hensure hq).imp_right Or.inl
  · rcases proceed_files ((ensureCacheFile_continues hensure).logsToConsole hc) hproceed hq with hold | hend
    · exact (ensureCacheFile_files hensure hold).imp_right Or.inl
    · exact Or.inr (Or.inr (hend.of_grows (ensureCacheFile_grows hensure)))

/-! ### Plain cache directories -/

/-- No file can have the path of the cache file in the directory at a place. -/
def Blocked (c : Config) (h : Host) (d : Location) : Prop :=
  Pathname.holdsNul c.cacheFilePath.spelling = true ∨ nameLimit < c.cacheFile.length ∨
    pathLimit < c.cacheFilePath.spelling.length ∨ h.files.isDirectoryAt (c.cacheFile :: d) = true

/-- In a plain cache directory a file is stranded beside the path of the cache file. -/
theorem Stranded.opensAt (hp : c.PlainCache) (hs : Stranded c h h' q e) :
    h'.files.OpensAt h'.workingDirectory c.cacheDirPath q.tail := by
  obtain ⟨n, hfound, -⟩ := hs.refused
  have hplain := isPlainName_temporaryName n
  rw [show temporaryDir c h' = c.cacheDirPath from LexicalPath.absolute_eq_self hp.normal _,
    LexicalPath.tidyChild_spelling hp.normal hplain] at hfound
  obtain ⟨-, -, d, hd, hentry⟩ := (resolve_entry_iff hp.normal hplain).1 hfound
  unfold entry at hentry
  split_ifs at hentry
  cases hentry
  exact hd

/-- In a plain cache directory a file is stranded only where the path of the cache file is blocked. -/
theorem Stranded.blocked (hp : c.PlainCache) (hs : Stranded c h h' q e) : Blocked c h' q.tail := by
  by_contra hfree
  simp only [Blocked, not_or, Bool.not_eq_true, Nat.not_lt] at hfree
  obtain ⟨hnul, hname, hlen, hdir⟩ := hfree
  obtain ⟨l, record, -, hnode⟩ := hs.record
  obtain ⟨n, hfound, hrefused⟩ := hs.refused
  have hlocation : (h'.files.entry q.tail c.cacheFile).location = c.cacheFile :: q.tail := by
    unfold entry
    split_ifs <;> rfl
  have htarget : h'.files.resolve h'.workingDirectory false c.cacheFilePath.spelling =
      .ok (h'.files.entry q.tail c.cacheFile) := by
    rw [hp.cacheFilePath_eq] at hlen ⊢
    exact (resolve_entry_iff hp.normal hp.cacheFile).2 ⟨hlen, hname, q.tail, hs.opensAt hp, rfl⟩
  have hlacks : lacksName c.cacheFilePath.spelling = false := by
    rw [hp.cacheFilePath_eq]
    exact lacksName_entry hp.normal hp.cacheFile
  obtain ⟨fs, hmoved⟩ := rename_of_found h'.now hfound hnode hs.removable htarget hlacks
    (by rw [hlocation]; exact not_suffix_tail) (by rw [hlocation]; exact hs.removable) (by rw [hlocation]; exact hdir)
  simp [changeFiles, hnul, hmoved] at hrefused

/-- The path of an entry that does not lead to a directory is that of none. -/
theorem isDirectoryAt_entry {fs : FileSystem} {cwd : Location} {p : LexicalPath} {name : Filename} {pl : Place}
    (hp : p.Normal) (hn : IsPlainName name) (hr : fs.resolve cwd true (p.entry name).spelling = .ok pl)
    (hdir : ∀ q, pl = .found q → fs.isDirectoryAt q = false) :
    (p.entry name).spelling.length ≤ pathLimit ∧ name.length ≤ nameLimit ∧
      ∃ d, fs.OpensAt cwd p d ∧ fs.isDirectoryAt (name :: d) = false := by
  obtain ⟨-, hlen, -⟩ := resolve_eq_ok_iff.1 hr
  obtain ⟨d, links, hd, hway⟩ := leads_entry hp hn hr
  have hname : IsEntryName name := by
    cases hway with
    | stay => exact absurd rfl hn.ne_dot
    | climb => exact absurd rfl hn.ne_dotDot
    | miss _ hname => exact hname
    | enter _ hname => exact hname
    | halt _ _ hname => exact hname
    | jump _ hname => exact hname
  refine ⟨hlen, hname.2.2, d, hd, ?_⟩
  by_contra htrue
  obtain ⟨n, hnode, hndir⟩ := isDirectoryAt_iff.1 (eq_true_of_ne_false htrue)
  have hlink : n.isLink = false := isLink_eq_false_of_isDirectoryAt (eq_true_of_ne_false htrue) hnode
  cases hway.of_node? hname hnode hlink with
  | arrive => exact htrue (hdir _ rfl)

theorem write_isDirectoryAt {fs fs' : FileSystem} {cwd : Location} {path : Pathname} {bytes : List UInt8} {now : Timestamp}
    (hw : fs.write cwd path bytes now = .ok fs') (hdir : fs.isDirectoryAt q = false) : fs'.isDirectoryAt q = false := by
  by_contra htrue
  obtain ⟨n', hn', hndir⟩ := isDirectoryAt_iff.1 (eq_true_of_ne_false htrue)
  have hold : ∃ n, fs.node? q = some n ∧ n.isDirectory = true := by
    rcases write_ok hw with ⟨d, name, -, -, hadds⟩ | ⟨place, n, -, hwrites⟩
    · rcases hadds.of_node? hn' with ⟨-, rfl⟩ | ⟨n, hn, hk⟩
      · cases hndir
      · exact ⟨n, hn, by rw [← hk.alike.isDirectory_eq, hndir]⟩
    · rw [hwrites.node?_eq] at hn'
      split_ifs at hn' with hq
      · cases hn'
        cases hndir
      · exact ⟨n', hn', hndir⟩
  rw [isDirectoryAt_iff.2 hold] at hdir
  cases hdir

/-- After a check of the cache file that does not fail a file can have its path. -/
theorem ensureCacheFile_entry {b : Bool} (hp : c.PlainCache) (ha : ensureCacheFile c h = (.ok b, h')) :
    Pathname.holdsNul c.cacheFilePath.spelling = false ∧ (c.cacheDirPath.entry c.cacheFile).spelling.length ≤ pathLimit ∧
      c.cacheFile.length ≤ nameLimit ∧ ∃ d, h'.files.OpensAt h'.workingDirectory c.cacheDirPath d ∧
        h'.files.isDirectoryAt (c.cacheFile :: d) = false := by
  rcases ensureCacheFile_cases ha with ⟨-, e, he⟩ | ⟨rfl, -, hnul, n, hs, hfile, -⟩ | ⟨-, hpl⟩
  · cases he
  · obtain ⟨q, hq, hn⟩ := status_eq_ok_iff.1 hs
    rw [hp.cacheFilePath_eq] at hq
    refine ⟨hnul, isDirectoryAt_entry hp.normal hp.cacheFile hq ?_⟩
    rintro q' hq'
    cases hq'
    rw [isDirectoryAt_of_node? hn, Node.isDirectory_of_isFile hfile]
  · obtain ⟨r₁, s₁, h₁, ⟨-, e, he⟩ | ⟨r₂, s₂, h₂, ⟨-, e, he⟩ | ⟨fs, hnul, hw, rfl, -⟩⟩⟩ := writePlaceholder_cases hpl
    · cases he
    · cases he
    have hled : ∃ pl, s₂.files.resolve s₂.workingDirectory true c.cacheFilePath.spelling = .ok pl ∧
        ∀ q, pl = .found q → s₂.files.isDirectoryAt q = false := by
      rcases write_ok hw with ⟨d, name, hv, -⟩ | ⟨place, n, hplace, hwrites⟩
      · exact ⟨_, hv, nofun⟩
      · refine ⟨_, hplace, ?_⟩
        rintro q hq
        cases hq
        rw [isDirectoryAt_of_node? hwrites.found, Node.isDirectory_of_isFile hwrites.isFile]
    obtain ⟨pl, hr, hdir⟩ := hled
    rw [hp.cacheFilePath_eq] at hr
    obtain ⟨hlen, hname, d, hd, hnone⟩ := isDirectoryAt_entry hp.normal hp.cacheFile hr hdir
    exact ⟨hnul, hlen, hname, d, hd.grow (write_grows hw), write_isDirectoryAt hw hnone⟩

/-- In a plain cache directory a load strands no file. -/
theorem loadOrRebuild_not_stranded {r : Except Failure Loaded} (hp : c.PlainCache) (hc : h.LogsToConsole)
    (ha : loadOrRebuild c h = (r, h')) (hr : r = .error e) : ¬Stranded c h h' q e := by
  subst hr
  intro hs
  have hblocked := hs.blocked hp
  rcases loadOrRebuild_cases hc ha with ⟨hr, -⟩ | ⟨-, -, ⟨e', hensure, -⟩ | ⟨usable, h₁, hensure, hproceed⟩⟩
  -- a load that ends before it goes on leaves no new file
  · obtain ⟨l, record, -, hn⟩ := hs.record
    rw [hr.files, hs.isNew] at hn
    cases hn
  · obtain ⟨l, record, -, hn⟩ := hs.record
    have hold := (ensureCacheFile_error hp hensure).2 _ _ hn rfl
    rw [hs.isNew] at hold
    cases hold
  · obtain ⟨hnul, hlen, hname, d, hd, hdir⟩ := ensureCacheFile_entry hp hensure
    have hspares := proceed_spares hp ((ensureCacheFile_continues hensure).logsToConsole hc) hproceed
    rw [hp.cacheFilePath_eq] at hnul
    rcases hblocked with hbad | hbad | hbad | hbad
    · rw [hp.cacheFilePath_eq, hnul] at hbad
      cases hbad
    · omega
    · rw [hp.cacheFilePath_eq] at hbad
      omega
    · -- what is at the path of the cache file has not become a directory since the check
      obtain ⟨n, hn, hndir⟩ := isDirectoryAt_iff.1 hbad
      have hopens := hs.opensAt hp
      have hentry := hspares.entry n
      rw [hspares.workingDirectory] at hopens
      rw [hp.cacheFilePath_eq, linkStatus_entry_iff hp.normal hp.cacheFile,
        linkStatus_entry_iff hp.normal hp.cacheFile] at hentry
      obtain ⟨-, -, d', hd', hn'⟩ := hentry.1 ⟨hlen, hname, q.tail, hopens, hn⟩
      obtain rfl := hd.unique hd'
      rw [isDirectoryAt_of_node? hn', hndir] at hdir
      cases hdir

end Cache

namespace Store

open Pathname (ofText)
open Cache (Ends HoldsPlaceholder Stranded Blocked temporaryName)

variable {s : Store} {h : Host}

/-- The files that calls leave. A file after a rebuild was there before, or the rebuild succeeds and it is the cache file, or
the rebuild fails as the system refuses to move it there. A load leaves the placeholder besides. In a plain cache directory
a load leaves no stranded file, and a rebuild leaves one only if the path of the cache file is blocked. -/
theorem files_after_calls (hc : h.LogsToConsole) :
    (∀ r s' h', s.rebuild h = ((r, s'), h') → ∀ q, h'.files.HoldsFile q →
      h.files.HoldsFile q ∨ Ends s.config h h' r q) ∧
    (∀ r s' h', s.load h = ((r, s'), h') → ∀ q, h'.files.HoldsFile q →
      h.files.HoldsFile q ∨ HoldsPlaceholder s.config h q ∨ Ends s.config h h' r q) ∧
    (s.config.PlainCache →
      (∀ e s' h' q, s.load h = ((.error e, s'), h') → ¬Stranded s.config h h' q e) ∧
      ∀ e s' h' q, s.rebuild h = ((.error e, s'), h') → Stranded s.config h h' q e → Blocked s.config h' q.tail) := by
  refine ⟨fun r s' h' ha q hq => ?_, fun r s' h' ha q hq => ?_, fun hp => ⟨fun e s' h' q ha => ?_, fun e s' h' q _ hs => ?_⟩⟩
  · exact Cache.rebuild_files hc (keeping_eq ha).1 hq
  · cases hl : s.loaded with
    | some l =>
        simp only [load, hl] at ha
        cases ha
        exact Or.inl hq
    | none =>
        simp only [load, hl] at ha
        exact Cache.loadOrRebuild_files hc (keeping_eq ha).1 hq
  · cases hl : s.loaded with
    | some l =>
        simp only [load, hl] at ha
        cases ha
    | none =>
        simp only [load, hl] at ha
        exact Cache.loadOrRebuild_not_stranded hp hc (keeping_eq ha).1 rfl
  · exact hs.blocked hp

/-- The sample with a directory at the path of the cache file. -/
def blockedHost : Host :=
  let t : Timestamp := ⟨10, 0⟩
  let fs := sampleFiles.put [ofText ".owl_cache", ofText "app"] (Node.newDirectory t)
  { sampleHost with files := fs.put [ofText "load_paths.json", ofText ".owl_cache", ofText "app"] (Node.newDirectory t) }

/-- A directory at the path of the cache file strands the new file of a rebuild. -/
theorem files_after_calls_sample :
    ∃ e h', rebuild ⟨sampleConfig, none⟩ blockedHost = ((.error e, ⟨sampleConfig, none⟩), h') ∧
      Stranded sampleConfig blockedHost h' [temporaryName 0, ofText ".owl_cache", ofText "app"] e ∧
      Blocked sampleConfig h' [ofText ".owl_cache", ofText "app"] := by
  obtain ⟨hfiles, -, hplain⟩ :=
    files_after_calls (s := ⟨sampleConfig, none⟩) (h := blockedHost) fun _ hs => absurd hs List.not_mem_nil
  have hfailed : (rebuild ⟨sampleConfig, none⟩ blockedHost).1.1.toOption = none := by decide +kernel
  have hnew : (rebuild ⟨sampleConfig, none⟩ blockedHost).2.files.HoldsFile
      [temporaryName 0, ofText ".owl_cache", ofText "app"] := by decide +kernel
  have hold : ¬blockedHost.files.HoldsFile [temporaryName 0, ofText ".owl_cache", ofText "app"] := by decide +kernel
  rcases hr : rebuild ⟨sampleConfig, none⟩ blockedHost with ⟨⟨e | l, s'⟩, h'⟩
  · obtain ⟨rfl, -⟩ := keeping_error hr
    rw [hr] at hnew
    rcases hfiles _ _ _ hr _ hnew with hbefore | ⟨l, hl, -⟩ | ⟨e', he, hs⟩
    · exact absurd hbefore hold
    · cases hl
    · cases he
      exact ⟨e, h', rfl, hs, (hplain Store.plainCache_sampleConfig).2 _ _ _ _ hr hs⟩
  · rw [hr] at hfailed
    cases hfailed

/-- A rebuild can leave a new file in the cache directory under the name of a temporary one. -/
theorem rebuild_strands_file :
    ¬∀ (s : Store) (h : Host) (d : Location) (n : Nat), h.LogsToConsole →
      (s.rebuild h).2.files.OpensAt (s.rebuild h).2.workingDirectory s.config.cacheDirPath d →
      h.files.node? (temporaryName n :: d) = none → (s.rebuild h).2.files.node? (temporaryName n :: d) = none := by
  intro hall
  have hopens : (rebuild ⟨sampleConfig, none⟩ blockedHost).2.files.OpensAt
      (rebuild ⟨sampleConfig, none⟩ blockedHost).2.workingDirectory sampleConfig.cacheDirPath
        [ofText ".owl_cache", ofText "app"] := by decide +kernel
  have hold : blockedHost.files.node? [temporaryName 0, ofText ".owl_cache", ofText "app"] = none := by decide +kernel
  have hnew : ((rebuild ⟨sampleConfig, none⟩ blockedHost).2.files.node?
      [temporaryName 0, ofText ".owl_cache", ofText "app"]).isSome = true := by decide +kernel
  rw [hall ⟨sampleConfig, none⟩ blockedHost [ofText ".owl_cache", ofText "app"] 0 (fun _ hs => absurd hs List.not_mem_nil)
    hopens hold] at hnew
  cases hnew

end Store

end RequirePath
