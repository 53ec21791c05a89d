import RequirePath.Proofs.Cache.Room
import RequirePath.Proofs.File.Outgrowth
import RequirePath.Proofs.File.PlainNames

/-! The writing of a record where one was written before. A writing that succeeds makes directories and a new file, and
moves the file to the cache file; without links all that the steps of another one need is there afterwards. The directories
are, the cache file is a file that may be replaced, and the name that was free for the new file is free again, unless the
cache file has it now. -/

namespace RequirePath

open FileSystem RequirePath.Action

namespace Cache

variable {c : Config} {l : Loaded} {h h₁ h₂ h' : Host} {fs : FileSystem} {d place : Location} {name : Filename}
variable {target : Place} {record : Record} {n : Nat}

/-! ### Where new files are made -/

theorem normal_temporaryDir (hroot : c.projectRoot.Normal) (h : Host) : (temporaryDir c h).Normal :=
  (Config.tidy_cacheDirPath hroot).normal_absolute _

/-- The path of a new file tells how long the path of its directory is at most. -/
theorem length_of_entry {p : LexicalPath} (hp : p.Normal)
    (hlen : (p.entry (temporaryName n)).spelling.length ≤ pathLimit) : p.spelling.length + 24 ≤ pathLimit := by
  have hname : 23 ≤ (temporaryName n).length := by
    rw [length_temporaryName_eq]
    omega
  have hlimit : pathLimit = 4095 := rfl
  rw [← LexicalPath.tidyChild_spelling hp (isPlainName_temporaryName n), Pathname.tidyChild] at hlen
  split_ifs at hlen with hslash
  · -- a path that ends in a slash is that of the root
    have hnames : p.names = [] := by
      by_contra hne
      have hends := LexicalPath.endsInSlash_spelling hp hne
      rw [endsInSlash, hslash] at hends
      cases hends
    have hroot : p.spelling.length ≤ 2 := by
      rw [LexicalPath.spelling_eq hp, hnames]
      cases p.anchor <;> decide
    omega
  · rw [Pathname.child, List.length_append, List.length_cons] at hlen
    omega

/-- A name that was free is chosen again if it is free and what was taken before it still is. -/
theorem freshName_again {directory : Pathname} (ha : Pathname.isAbsolute directory = true)
    (hd : h.files.resolve h.workingDirectory true directory = .ok (.found d))
    (hd' : h'.files.resolve h'.workingDirectory true directory = .ok (.found d))
    (htaken : ∀ m, Taken h directory m → Taken h' directory m) (hn : freshName h directory = temporaryName n)
    (hfree : h'.files.node? (temporaryName n :: d) = none) : freshName h' directory = temporaryName n := by
  obtain ⟨m, -, hm, -, hall⟩ := freshName_least ha hd
  obtain rfl : m = n := temporaryName_injective (hm.symm.trans hn)
  obtain ⟨m', -, hm', hfree', hall'⟩ := freshName_least ha hd'
  have hnot : ¬Taken h' directory m := by
    intro ht
    obtain ⟨node, hnode⟩ := ht.exists_node ha hd'
    rw [hfree] at hnode
    cases hnode
  rcases Nat.lt_trichotomy m' m with hlt | rfl | hlt
  · exact absurd (htaken m' (hall m' hlt)) hfree'
  · exact hm'
  · exact absurd (hall' m hlt) hnot

/-! ### The steps of a writing -/

/-- A writing that succeeds: directories are made, then a new file with the bytes of the record, which is moved. -/
structure Installs (c : Config) (l : Loaded) (h h₁ h₂ h' : Host) (fs : FileSystem) (d : Location) (name : Filename)
    (target : Place) (record : Record) : Prop where
  first : makePath c.cacheDirPath h = (.ok (), h₁)
  second : makePath c.compilerCachePath h₁ = (.ok (), h₂)
  vacant : h₂.files.resolve h₂.workingDirectory false (temporaryPath c h₂) = .ok (.vacant d name)
  temporaryNul : Pathname.holdsNul (temporaryPath c h₂) = false
  texts : l.record? = some record
  adds : Adds h₂.files fs d name ⟨.file record.encode, Node.privateMode, h₂.now⟩ h₂.now
  cacheNul : Pathname.holdsNul c.cacheFilePath.spelling = false
  named : lacksName c.cacheFilePath.spelling = false
  leads : fs.resolve h₂.workingDirectory false c.cacheFilePath.spelling = .ok target
  replaceable : fs.mayRemoveAt target.location = true
  moves : Moves fs h'.files (name :: d) target.location ⟨.file record.encode, Node.privateMode, h₂.now⟩
  result : h' = { h₂ with files := h'.files }

theorem exists_installs (ha : writeRecord c l h = (.ok (), h')) :
    ∃ h₁ h₂ fs d name target record, Installs c l h h₁ h₂ h' fs d name target record := by
  obtain ⟨h₁, h₂, fs₁, d, name, hfirst, hsecond, hv, hmade, hinstall⟩ := writeRecord_ok ha
  obtain ⟨record, fs, target, hl, hfill, htarget, -, hmoves⟩ := installRecord_ok hmade hinstall
  obtain ⟨fs', hfill', hmove⟩ := installRecord_some hmade hl hinstall
  obtain rfl : fs' = fs := Except.ok.inj (hfill'.written.symm.trans hfill.written)
  obtain ⟨hnul, fs₂, hrename, hresult⟩ := changeFiles_ok hmove
  obtain ⟨-, target', -, ht, hname, -, hmay⟩ := rename_passed hrename
  obtain rfl : target' = target := Except.ok.inj (ht.symm.trans htarget)
  exact ⟨h₁, h₂, fs', d, name, target', record, hfirst, hsecond, hv, hmade.nul, hl, hfill.adds, hnul, hname, htarget, hmay,
    hmoves, by rw [hresult]⟩

namespace Installs

variable (hi : Installs c l h h₁ h₂ h' fs d name target record)
include hi

theorem workingDirectory₂ : h₂.workingDirectory = h.workingDirectory := by
  rw [(makePath_keeps hi.second).1, (makePath_keeps hi.first).1]

theorem workingDirectory : h'.workingDirectory = h.workingDirectory := by
  rw [hi.result, hi.workingDirectory₂]

theorem outgrows₂ : h₂.files.Outgrows h'.files target.location :=
  outgrows_of_moves (keeps_refl _) (fun _ _ hn _ => hn) hi.adds rfl hi.moves

theorem outgrows₁ : h₁.files.Outgrows h'.files target.location :=
  outgrows_of_moves (makePath_keeps hi.second).2 (fun _ _ hn hd => makePath_new hi.second hn hd) hi.adds rfl hi.moves

/-- The file system has outgrown the one before the writing. -/
theorem outgrows : h.files.Outgrows h'.files target.location :=
  outgrows_of_moves ((makePath_keeps hi.first).2.trans (makePath_keeps hi.second).2)
    (fun _ _ hn hd => makePath_new hi.first (makePath_new hi.second hn hd) hd) hi.adds rfl hi.moves

theorem steps_ne_nil : steps c.cacheFilePath.spelling ≠ [] := by
  intro hnil
  have hnamed := hi.named
  rw [lacksName, hnil] at hnamed
  cases hnamed

theorem wellNamed (hn : h.files.WellNamed) : h'.files.WellNamed := by
  have hn₂ := makePath_wellNamed (makePath_wellNamed hn hi.first) hi.second
  exact (hn₂.adds hi.vacant hi.adds).moves hi.leads hi.steps_ne_nil hi.moves

/-- What could be removed from the directory of the cache file still can be. -/
theorem mayRemoveAt : h'.files.mayRemoveAt target.location = true := by
  obtain ⟨-, -, links, -, hway⟩ := resolve_eq_ok_iff.1 hi.leads
  obtain ⟨y, ys, hsteps⟩ := List.exists_cons_of_ne_nil hi.steps_ne_nil
  rw [hsteps] at hway
  obtain ⟨x, e, he, hdir, -⟩ := isDirectoryAt_of_location hway hi.moves.notDirectory
  refine mayRemoveAt_of_alike (fun n hn => ?_) hi.replaceable
  rw [he, List.tail_cons] at hn ⊢
  exact hi.moves.directory rfl hn (by rw [← isDirectoryAt_of_node? hn, hdir])

variable (hroot : c.projectRoot.Normal) (hl : h.files.LinkFree)
include hl

theorem linkFree₁ : h₁.files.LinkFree := makePath_linkFree hl hi.first

theorem linkFree₂ : h₂.files.LinkFree := makePath_linkFree (hi.linkFree₁ hl) hi.second

include hroot

/-- The cache file is an entry of the last name of its path. -/
theorem exists_location : ∃ d, target.location = c.cacheFilePath.name :: d := by
  obtain ⟨-, -, links, -, hway⟩ := resolve_eq_ok_iff.1 hi.leads
  rw [(Config.tidy_cacheFilePath hroot).steps_spelling] at hway
  have hnamed := hi.named
  rw [lacksName, (Config.tidy_cacheFilePath hroot).steps_spelling] at hnamed
  rw [LexicalPath.name]
  cases hlast : c.cacheFilePath.names.getLast? with
  | none => simp [hlast] at hnamed
  | some x =>
      simp only [hlast, Bool.or_eq_false_iff, decide_eq_false_iff_not] at hnamed
      exact hway.exists_location (hi.adds.linkFree (hi.linkFree₂ hl) rfl) hlast hnamed.1 hnamed.2

/-- The path of the cache file leads to the file that was moved. -/
theorem resolve_cacheFile (follow : Bool) :
    h'.files.resolve h'.workingDirectory follow c.cacheFilePath.spelling = .ok (.found target.location) := by
  have hends : endsInSlash c.cacheFilePath.spelling = false := by
    have htidy := Config.tidy_cacheFilePath hroot
    refine htidy.endsInSlash_spelling ?_
    rw [← htidy.steps_spelling]
    exact hi.steps_ne_nil
  rw [hi.workingDirectory, ← hi.workingDirectory₂]
  exact resolve_of_moves (hi.adds.linkFree (hi.linkFree₂ hl) rfl) hi.leads hi.moves rfl hends

theorem read_cacheFile : h'.files.read h'.workingDirectory c.cacheFilePath.spelling = .ok record.encode := by
  have hstatus := status_eq_ok_iff.2 ⟨_, hi.resolve_cacheFile hroot hl true, hi.moves.node?_place⟩
  exact read_eq_ok_iff.2 ⟨_, hstatus, by simp [Node.readable, Node.privateMode], rfl⟩

end Installs

/-! ### Writing once more -/

/-- All that the writing of a record needs but the record: the directories are there, a new file can be made, and what the
path of the cache file leads to is a file that may be replaced. -/
structure Rewritable (c : Config) (h : Host) (d : Location) (name : Filename) (place : Location) : Prop where
  cacheDir : h.files.directory? h.workingDirectory c.cacheDirPath.spelling = true
  compilerCache : h.files.directory? h.workingDirectory c.compilerCachePath.spelling = true
  vacant : h.files.resolve h.workingDirectory false (temporaryPath c h) = .ok (.vacant d name)
  writable : h.files.isWritableAt d = true
  temporaryNul : Pathname.holdsNul (temporaryPath c h) = false
  cacheNul : Pathname.holdsNul c.cacheFilePath.spelling = false
  named : lacksName c.cacheFilePath.spelling = false
  found : h.files.resolve h.workingDirectory false c.cacheFilePath.spelling = .ok (.found place)
  isFile : ∃ n, h.files.node? place = some n ∧ n.isFile = true
  replaceable : h.files.mayRemoveAt place = true

theorem Rewritable.exists_written (hr : Rewritable c h d name place) (hl : l.record? = some record) :
    ∃ h', writeRecord c l h = (.ok (), h') := by
  obtain ⟨fs, hcreate, hmade⟩ := exists_made hr.vacant hr.writable hr.temporaryNul
  obtain ⟨n, hn, hfile⟩ := hr.isFile
  have hdir : h.files.isDirectoryAt place = false := by rw [isDirectoryAt_of_node? hn, Node.isDirectory_of_isFile hfile]
  refine writeRecord_of_made (makePath_of_directory? hr.cacheDir) (makePath_of_directory? hr.compilerCache) hcreate hmade hl
    hr.cacheNul fun fs₁ hfill => ?_
  have hgrows := hfill.adds.keeps.grows
  refine rename_of_found _ hfill.found hfill.adds.node?_new hfill.adds.mayRemoveAt (resolve_grow hgrows hr.found) hr.named
    (fun hsuffix => ?_) (mayRemoveAt_of_alike (fun n => hgrows _ n) hr.replaceable) ?_
  · have hplace := isDirectoryAt_of_suffix hfill.adds.isOpen.1 hsuffix
    rw [Place.location, hdir] at hplace
    cases hplace
  · obtain ⟨n', hn', ha⟩ := hgrows _ n hn
    rw [Place.location, isDirectoryAt_of_node? hn', ha.isDirectory_eq, Node.isDirectory_of_isFile hfile]

namespace Installs

variable (hi : Installs c l h h₁ h₂ h' fs d name target record) (hroot : c.projectRoot.Normal) (hl : h.files.LinkFree)
include hi hroot hl

omit hl in
/-- The new file has a number, and its directory is open. -/
theorem exists_number : ∃ n, name = temporaryName n ∧ freshName h₂ (temporaryDir c h₂).spelling = temporaryName n ∧
    h₂.files.OpensAt h₂.workingDirectory (temporaryDir c h₂) d ∧ Pathname.holdsNul (temporaryDir c h₂).spelling = false ∧
    (temporaryName n).length ≤ nameLimit ∧ ((temporaryDir c h₂).entry (temporaryName n)).spelling.length ≤ pathLimit := by
  have hp := normal_temporaryDir hroot h₂
  obtain ⟨n, hn⟩ := freshName_eq h₂ (temporaryDir c h₂).spelling
  have hplain := isPlainName_temporaryName n
  have hvacant := hi.vacant
  have hnul := hi.temporaryNul
  rw [temporaryPath_of_freshName hp rfl hn] at hvacant hnul
  obtain ⟨hname, hopens, -⟩ := resolve_entry_vacant hp hplain hvacant
  obtain ⟨hlen, hlimit, -⟩ := (resolve_entry_iff hp hplain).1 hvacant
  exact ⟨n, hname, hn, hopens, ((holdsNul_entry_iff hp hplain).1 hnul).1, hlimit, hlen⟩

/-- The path of a new file leads to a free name once more. -/
theorem vacant_again
    (hfresh : (∀ n, c.cacheFilePath.name ≠ temporaryName n) ∨ h'.files.nodes.length < 100000000) :
    ∃ name', h'.files.resolve h'.workingDirectory false (temporaryPath c h') = .ok (.vacant d name') ∧
      Pathname.holdsNul (temporaryPath c h') = false := by
  obtain ⟨n, hname, hn, hopens, hnul, hlimit, hlen⟩ := hi.exists_number hroot
  have hp := normal_temporaryDir hroot h₂
  have hcwd : h'.workingDirectory = h₂.workingDirectory := by rw [hi.result]
  have hdir : temporaryDir c h' = temporaryDir c h₂ := by
    rw [temporaryDir, temporaryDir, Host.workingPath, Host.workingPath, hcwd]
  have hopens' : h'.files.OpensAt h'.workingDirectory (temporaryDir c h₂) d := by
    rw [hcwd]
    exact hi.outgrows₂.opensAt (hi.linkFree₂ hl) hopens
  by_cases hplace : target.location = temporaryName n :: d
  · -- the cache file has the name that the new file had, so the next free one is chosen
    have hnodes : h'.files.nodes.length < 100000000 := by
      refine hfresh.resolve_left fun hother => ?_
      obtain ⟨e, he⟩ := hi.exists_location hroot hl
      exact hother n (List.cons.inj (he.symm.trans hplace)).1
    obtain ⟨m, hm, hfree, hlimit', hlen'⟩ := freshName_vacant hp hopens' (length_of_entry hp hlen) hnodes
    exact ⟨temporaryName m, resolve_temporaryPath hp hdir hopens' hnul hm hfree hlimit' hlen'⟩
  · have hfree : h'.files.node? (temporaryName n :: d) = none := by
      rw [← hname]
      exact hi.moves.node?_source (by rw [hname]; exact Ne.symm hplace)
    have htaken : ∀ m, Taken h₂ (temporaryDir c h₂).spelling m → Taken h' (temporaryDir c h₂).spelling m := by
      rintro m ⟨q, hq⟩
      exact ⟨q, by rw [hcwd]; exact hi.outgrows₂.resolve (hi.linkFree₂ hl) hq⟩
    have hm := freshName_again (LexicalPath.isAbsolute_spelling hp) hopens.1 hopens'.1 htaken hn hfree
    exact ⟨temporaryName n, resolve_temporaryPath hp hdir hopens' hnul hm hfree hlimit hlen⟩

/-- A record can be written again where one was written. -/
theorem rewritable
    (hfresh : (∀ n, c.cacheFilePath.name ≠ temporaryName n) ∨ h'.files.nodes.length < 100000000) :
    ∃ name', Rewritable c h' d name' target.location := by
  obtain ⟨name', hvacant, hnul⟩ := hi.vacant_again hroot hl hfresh
  have hdir := hi.outgrows₁.directory? (hi.linkFree₁ hl) (makePath_directory? (Config.tidy_cacheDirPath hroot) hi.first)
  have hcompiler := hi.outgrows₂.directory? (hi.linkFree₂ hl) (makePath_directory? (Config.tidy_compilerCachePath hroot) hi.second)
  refine ⟨name', ?_, ?_, hvacant, ?_, hnul, hi.cacheNul, hi.named, hi.resolve_cacheFile hroot hl false,
    ⟨_, hi.moves.node?_place, rfl⟩, hi.mayRemoveAt⟩
  · rwa [hi.workingDirectory]
  · have hcwd : h₁.workingDirectory = h.workingDirectory := by rw [(makePath_keeps hi.first).1]
    rwa [hi.workingDirectory, ← hcwd]
  · exact isWritableAt_of_alike (fun n hn => hi.outgrows₂.directory hn (by rw [← isDirectoryAt_of_node? hn, hi.adds.isOpen.1]))
      hi.adds.isWritableAt

end Installs

end Cache

end RequirePath
