import Mathlib.Data.List.Nodup
import RequirePath.Proofs.Cache.ReadBack

/-! The writing of a record where there is room for it. A new file gets the first name that is not taken, and there are
more names than nodes, so one is free. It can be made in an open directory that may be written, and moved to the cache
file, which must be no directory. What is left that can fail is the record: it is written exactly if all of its paths
are texts. -/

namespace RequirePath

open FileSystem RequirePath.Action

theorem Utf8.encode_of_ascii {cs : List Char} (h : ∀ ch ∈ cs, ch.toNat < 128) :
    encode cs = cs.map fun ch => ch.toNat.toUInt8 := by
  rw [encode, ← List.flatMap_singleton' (cs.map _), List.flatMap_map]
  refine List.flatMap_congr fun ch hch => ?_
  simp only [encodeChar, if_pos (h ch hch)]

namespace Cache

variable {c : Config} {l : Loaded} {h h' h₁ h₂ : Host} {d : Location} {m n : Nat} {ch : Char}

/-! ### Names of new files -/

/-- The text of the name of a new file, by number. -/
def temporaryText (n : Nat) : List Char :=
  "load_paths_".toList ++ (Calendar.padded 8 n).toList ++ ".tmp".toList

theorem temporaryName_eq (n : Nat) : temporaryName n = Utf8.encode (temporaryText n) := by
  unfold temporaryText
  rw [temporaryName, Pathname.ofText, String.toList_append, String.toList_append]

theorem ascii_of_mem_temporaryText (h : ch ∈ temporaryText n) : 0 < ch.toNat ∧ ch.toNat < 128 := by
  have hfixed : ("load_paths_".toList ++ ".tmp".toList).all (fun ch => 0 < ch.toNat && ch.toNat < 128) = true := by decide
  have hall : ∀ ch, ch ∈ "load_paths_".toList ∨ ch ∈ ".tmp".toList → 0 < ch.toNat ∧ ch.toNat < 128 := by
    intro ch hch
    simpa using List.all_eq_true.1 hfixed ch (List.mem_append.2 hch)
  rcases List.mem_append.1 h with h | h
  · rcases List.mem_append.1 h with h | h
    · exact hall ch (Or.inl h)
    · rw [Calendar.padded, String.toList_ofList] at h
      rcases List.mem_append.1 h with h | h
      · rw [List.eq_of_mem_replicate h]
        decide
      · have hdigit := Nat.isDigit_of_mem_toDigits (by decide) (by decide) h
        rw [Char.isDigit, Bool.and_eq_true, decide_eq_true_eq, decide_eq_true_eq] at hdigit
        have hlow : 48 ≤ ch.toNat := hdigit.1
        have hhigh : ch.toNat ≤ 57 := hdigit.2
        omega
  · exact hall ch (Or.inr h)

/-- Different numbers give different names. -/
theorem temporaryName_injective (h : temporaryName m = temporaryName n) : m = n := by
  have htext : temporaryText m = temporaryText n := by
    have hdecode := congrArg Utf8.decode h
    rw [temporaryName_eq, temporaryName_eq, Utf8.decode_encode, Utf8.decode_encode] at hdecode
    exact Except.ok.inj hdecode
  have hpadded : (Calendar.padded 8 m).toList = (Calendar.padded 8 n).toList :=
    List.append_cancel_left (List.append_cancel_right htext)
  have hvalue : ∀ k, Nat.ofDigitChars 10 (Calendar.padded 8 k).toList 0 = k := by
    intro k
    have hzeros : ∀ count, Nat.ofDigitChars 10 (List.replicate count '0') 0 = 0 := by
      intro count
      induction count with
      | zero => rfl
      | succ count ih =>
          rw [List.replicate_succ, Nat.ofDigitChars_cons]
          exact ih
    rw [Calendar.padded, String.toList_ofList, Nat.ofDigitChars_append, hzeros]
    exact Nat.ofDigitChars_toDigits (by decide) (by decide)
  rw [← hvalue m, hpadded, hvalue]

theorem length_temporaryName_eq (n : Nat) : (temporaryName n).length = 15 + max 8 (Nat.toDigits 10 n).length := by
  have hpadded : (Calendar.padded 8 n).toList.length = max 8 (Nat.toDigits 10 n).length := by
    rw [Calendar.padded, String.toList_ofList, List.length_append, List.length_replicate]
    omega
  have hstart : "load_paths_".toList.length = 11 := by decide
  have hend : ".tmp".toList.length = 4 := by decide
  rw [temporaryName_eq, Utf8.encode_of_ascii fun ch hch => (ascii_of_mem_temporaryText hch).2, List.length_map]
  unfold temporaryText
  rw [List.length_append, List.length_append, hpadded, hstart, hend]
  omega

theorem length_temporaryName (h : n < 100000000) : (temporaryName n).length = 23 := by
  have hdigits : (Nat.toDigits 10 n).length ≤ 8 := (Nat.length_toDigits_le_iff (by decide) (by decide)).2 h
  rw [length_temporaryName_eq]
  omega

theorem nul_notMem_temporaryName (n : Nat) : nul ∉ temporaryName n := by
  rw [temporaryName_eq, Utf8.encode_of_ascii fun ch hch => (ascii_of_mem_temporaryText hch).2, List.mem_map]
  rintro ⟨ch, hch, he⟩
  obtain ⟨hpos, hlt⟩ := ascii_of_mem_temporaryText hch
  have hvalue := congrArg UInt8.toNat he
  rw [Utf8.toNat_toUInt8 (by omega)] at hvalue
  have hzero : nul.toNat = 0 := rfl
  omega

/-- The name of a new file, by number, is taken in a directory. -/
def Taken (h : Host) (directory : Pathname) (n : Nat) : Prop :=
  ∃ q, h.files.resolve h.workingDirectory false (Pathname.child directory (temporaryName n)) = .ok (.found q)

/-- The name that is chosen is the first one that is not taken, unless all that are tried are. -/
theorem freshName_cases (h : Host) (directory : Pathname) :
    (∃ n ≤ h.files.nodes.length, freshName h directory = temporaryName n ∧ ¬Taken h directory n ∧
      ∀ m < n, Taken h directory m) ∨
    ∀ m ≤ h.files.nodes.length, Taken h directory m := by
  obtain ⟨taken, hfresh, htaken⟩ : ∃ taken : Nat → Bool,
      freshName h directory =
        temporaryName (((List.range (h.files.nodes.length + 1)).find? fun n => !taken n).getD 0) ∧
      ∀ n, taken n = true ↔ Taken h directory n := by
    refine ⟨_, rfl, fun n => ?_⟩
    unfold Taken
    split
    · next q hq => exact ⟨fun _ => ⟨q, hq⟩, fun _ => rfl⟩
    · next hnone => exact ⟨nofun, fun ⟨q, hq⟩ => absurd hq (hnone q)⟩
  simp only [← htaken, Bool.not_eq_true]
  cases hfind : (List.range (h.files.nodes.length + 1)).find? fun n => !taken n with
  | some n =>
      obtain ⟨hfree, hmem, hall⟩ := List.find?_range_eq_some.1 hfind
      refine Or.inl ⟨n, Nat.lt_succ_iff.1 (List.mem_range.1 hmem), by rw [hfresh, hfind]; rfl, by simpa using hfree, ?_⟩
      simpa using hall
  | none =>
      rw [List.find?_range_eq_none] at hfind
      exact Or.inr fun m hm => by simpa using hfind m (Nat.lt_succ_iff.2 hm)

section

variable {directory : Pathname} (ha : Pathname.isAbsolute directory = true)
  (hd : h.files.resolve h.workingDirectory true directory = .ok (.found d))
include ha hd

/-- A taken name is that of a node. -/
theorem Taken.exists_node (ht : Taken h directory n) : ∃ node, h.files.node? (temporaryName n :: d) = some node := by
  obtain ⟨q, hq⟩ := ht
  have hplain := isPlainName_temporaryName n
  obtain ⟨d', links, hd', -, hlast⟩ := leads_of_isEntryPath ha (Pathname.isEntryPath_child ha hplain) hq
  obtain rfl : d = d' := by
    have := hd.symm.trans hd'
    cases this
    rfl
  obtain ⟨-, -, -, hentry⟩ := (leads_single_iff hplain.ne_dot hplain.ne_dotDot).1 hlast
  unfold FileSystem.entry at hentry
  split_ifs at hentry with hsome
  exact Option.isSome_iff_exists.1 hsome

/-- There are no more taken names than nodes. -/
theorem le_length_of_taken (hall : ∀ m < n, Taken h directory m) : n ≤ h.files.nodes.length := by
  have hsubset : (List.range n).map (fun m => temporaryName m :: d) ⊆ h.files.nodes.map Prod.fst := by
    intro place hplace
    obtain ⟨m, hmem, rfl⟩ := List.mem_map.1 hplace
    obtain ⟨node, hnode⟩ := (hall m (List.mem_range.1 hmem)).exists_node ha hd
    exact List.mem_map_of_mem (node?_eq_some_iff.1 hnode)
  have hnodup : ((List.range n).map fun m => temporaryName m :: d).Nodup :=
    List.nodup_range.map fun m n heq => temporaryName_injective (List.cons.inj heq).1
  have hlength := hnodup.length_le_of_subset hsubset
  rwa [List.length_map, List.length_map, List.length_range] at hlength

/-- In a directory that is there the first name that is not taken is chosen. -/
theorem freshName_least : ∃ n ≤ h.files.nodes.length, freshName h directory = temporaryName n ∧ ¬Taken h directory n ∧
    ∀ m < n, Taken h directory m := by
  rcases freshName_cases h directory with hfirst | hall
  · exact hfirst
  · have hle := le_length_of_taken ha hd fun m hm => hall m (Nat.lt_succ_iff.1 hm)
    omega

end

/-- In an open directory there is a free name for a new file, if its path may have as many bytes as it needs. -/
theorem freshName_vacant {p : LexicalPath} (hp : p.Normal) (hd : h.files.OpensAt h.workingDirectory p d)
    (hlen : p.spelling.length + 24 ≤ pathLimit) (hnodes : h.files.nodes.length < 100000000) :
    ∃ n, freshName h p.spelling = temporaryName n ∧ h.files.node? (temporaryName n :: d) = none ∧
      (temporaryName n).length ≤ nameLimit ∧ (p.entry (temporaryName n)).spelling.length ≤ pathLimit := by
  have habsolute := LexicalPath.isAbsolute_spelling hp
  obtain ⟨n, hn, hfresh, hfree, -⟩ := freshName_least habsolute hd.1
  have hname := length_temporaryName (n := n) (by omega)
  have hlimit : (temporaryName n).length ≤ nameLimit := by
    rw [hname]
    decide
  have hplain := isPlainName_temporaryName n
  have hpath := Pathname.isEntryPath_child habsolute hplain
  have hlength := hpath.length_le_add
  have hlength' := (Pathname.isEntryPath_entry hp hplain).length_le_add
  have hresolve := resolve_of_isEntryPath habsolute hd.1 hd.2 hplain hpath hlimit (by omega)
  refine ⟨n, hfresh, ?_, hlimit, by omega⟩
  cases hnode : h.files.node? (temporaryName n :: d) with
  | none => rfl
  | some node =>
      rw [FileSystem.entry, hnode, Option.isSome_some, if_pos rfl] at hresolve
      exact absurd ⟨_, hresolve⟩ hfree

/-! ### Room for a record -/

/-- The cache directory is open and may be written, its entry for the cache file is no directory, and neither the path
of the cache file nor that of a new file is too long. -/
structure Room (c : Config) (h : Host) (d : Location) : Prop where
  opensAt : h.files.OpensAt h.workingDirectory c.cacheDirPath d
  isWritableAt : h.files.isWritableAt d = true
  notDirectory : h.files.isDirectoryAt (c.cacheFile :: d) = false
  nul : Pathname.holdsNul c.cacheFilePath.spelling = false
  nameLength : c.cacheFile.length ≤ nameLimit
  pathLength : c.cacheFilePath.spelling.length ≤ pathLimit
  temporaryLength : c.cacheDirPath.spelling.length + 24 ≤ pathLimit
  nodes : h.files.nodes.length < 100000000

instance (fs : FileSystem) (cwd : Location) (p : LexicalPath) (d : Location) : Decidable (fs.OpensAt cwd p d) :=
  inferInstanceAs (Decidable (_ = _ ∧ _ = _ ∧ _ = _))

theorem room_iff : Room c h d ↔
    (h.files.OpensAt h.workingDirectory c.cacheDirPath d ∧ h.files.isWritableAt d = true ∧
      h.files.isDirectoryAt (c.cacheFile :: d) = false) ∧
    (Pathname.holdsNul c.cacheFilePath.spelling = false ∧ c.cacheFile.length ≤ nameLimit ∧
      c.cacheFilePath.spelling.length ≤ pathLimit) ∧
    c.cacheDirPath.spelling.length + 24 ≤ pathLimit ∧ h.files.nodes.length < 100000000 :=
  ⟨fun hr => ⟨⟨hr.opensAt, hr.isWritableAt, hr.notDirectory⟩, ⟨hr.nul, hr.nameLength, hr.pathLength⟩,
      hr.temporaryLength, hr.nodes⟩,
    fun hr => ⟨hr.1.1, hr.1.2.1, hr.1.2.2, hr.2.1.1, hr.2.1.2.1, hr.2.1.2.2, hr.2.2.1, hr.2.2.2⟩⟩

instance (c : Config) (h : Host) (d : Location) : Decidable (Room c h d) :=
  decidable_of_iff _ room_iff.symm

variable {record : Record} {fs fs₁ : FileSystem} {name : Filename} {path : Pathname}

theorem holdsNul_entry_iff {p : LexicalPath} (hp : p.Normal) (hn : IsPlainName name) :
    Pathname.holdsNul (p.entry name).spelling = false ↔ Pathname.holdsNul p.spelling = false ∧ nul ∉ name := by
  have hslash : nul ≠ slash := by decide
  have hmem : ∀ path : Pathname, Pathname.holdsNul path = false ↔ nul ∉ path := fun path => by
    rw [Pathname.holdsNul, ← List.contains_iff_mem, Bool.not_eq_true]
  rw [hmem, hmem, ← LexicalPath.tidyChild_spelling hp hn, Pathname.tidyChild]
  split_ifs
  · rw [List.mem_append, not_or]
  · rw [Pathname.child, List.mem_append, List.mem_cons, not_or, not_or]
    exact ⟨fun h => ⟨h.1, h.2.2⟩, fun h => ⟨h.1, hslash, h.2⟩⟩

/-- The directory of new files: the cache directory, without double dots. -/
def temporaryDir (c : Config) (h : Host) : LexicalPath :=
  LexicalPath.absolute h.workingPath c.cacheDirPath

theorem temporaryPath_of_freshName {p : LexicalPath} (hp : p.Normal) (hdir : temporaryDir c h = p)
    (hn : freshName h p.spelling = temporaryName n) : temporaryPath c h = (p.entry (temporaryName n)).spelling := by
  rw [← LexicalPath.tidyChild_spelling hp (isPlainName_temporaryName n), ← hn, ← hdir]
  rfl

/-- The path of a new file leads to its name where that is free. -/
theorem resolve_temporaryPath {p : LexicalPath} (hp : p.Normal) (hdir : temporaryDir c h = p)
    (hd : h.files.OpensAt h.workingDirectory p d) (hnul : Pathname.holdsNul p.spelling = false)
    (hn : freshName h p.spelling = temporaryName n) (hnone : h.files.node? (temporaryName n :: d) = none)
    (hname : (temporaryName n).length ≤ nameLimit) (hlen : (p.entry (temporaryName n)).spelling.length ≤ pathLimit) :
    h.files.resolve h.workingDirectory false (temporaryPath c h) = .ok (.vacant d (temporaryName n)) ∧
      Pathname.holdsNul (temporaryPath c h) = false := by
  have hplain := isPlainName_temporaryName n
  rw [temporaryPath_of_freshName hp hdir hn]
  refine ⟨(resolve_entry_iff hp hplain).2 ⟨hlen, hname, d, hd, ?_⟩, ?_⟩
  · rw [FileSystem.entry, hnone]
    rfl
  · exact (holdsNul_entry_iff hp hplain).2 ⟨hnul, nul_notMem_temporaryName n⟩

/-- A new file is made where its path leads to a free name in a directory that may be written. -/
theorem exists_made (hpath : h.files.resolve h.workingDirectory false (temporaryPath c h) = .ok (.vacant d name))
    (hw : h.files.isWritableAt d = true) (hnul : Pathname.holdsNul (temporaryPath c h) = false) :
    ∃ fs₁, changeFiles (temporaryPath c h)
        (fun h' => h'.files.createPrivate h'.workingDirectory (temporaryPath c h) [] h'.now) h =
          (.ok (), { h with files := fs₁ }) ∧
      Made h.files { h with files := fs₁ } d name (temporaryPath c h) := by
  obtain ⟨fs₁, hcreate⟩ : ∃ fs₁, h.files.createPrivate h.workingDirectory (temporaryPath c h) [] h.now = .ok fs₁ := by
    unfold createPrivate create
    rw [hpath]
    simp only [hw, if_true]
    exact ⟨_, rfl⟩
  obtain ⟨d', name', hpath', hadds, hfound⟩ := createPrivate_found (endsInSlash_temporaryPath c h) hcreate
  have heq := Except.ok.inj (hpath.symm.trans hpath')
  cases heq
  refine ⟨fs₁, ?_, hnul, hadds, hfound⟩
  simp [changeFiles, hnul, hcreate]

/-- A record is written if the directories and the new file are made and the new file can be moved with its bytes. -/
theorem writeRecord_of_made (hfirst : makePath c.cacheDirPath h = (.ok (), h₁))
    (hsecond : makePath c.compilerCachePath h₁ = (.ok (), h₂))
    (hcreate : changeFiles (temporaryPath c h₂)
      (fun h' => h'.files.createPrivate h'.workingDirectory (temporaryPath c h₂) [] h'.now) h₂ =
        (.ok (), { h₂ with files := fs }))
    (hmade : Made h₂.files { h₂ with files := fs } d name (temporaryPath c h₂)) (hl : l.record? = some record)
    (hnul : Pathname.holdsNul c.cacheFilePath.spelling = false)
    (hmove : ∀ fs₁, Filled h₂.files fs₁ { h₂ with files := fs } d name (temporaryPath c h₂) record →
      ∃ fs₂, fs₁.rename h₂.workingDirectory (temporaryPath c h₂) c.cacheFilePath.spelling h₂.now = .ok fs₂) :
    ∃ h', writeRecord c l h = (.ok (), h') := by
  rw [writeRecord_eq, bind_of_ok hfirst, bind_of_ok hsecond, look_bind, bind_of_ok hcreate]
  rcases hinstall : installRecord c l (temporaryPath c h₂) { h₂ with files := fs } with ⟨r, h₃⟩
  obtain ⟨fs₁, hfill, hmoved⟩ := installRecord_some hmade hl hinstall
  obtain ⟨fs₂, hrename⟩ := hmove fs₁ hfill
  simp only [changeFiles, hnul, hrename] at hmoved
  exact ⟨_, hmoved.symm⟩

/-- Where there is room, a new file can be made. -/
theorem Room.exists_made (hr : Room c h d) (hp : c.cacheDirPath.Normal) (hf : IsPlainName c.cacheFile) :
    ∃ fs₁ name, changeFiles (temporaryPath c h)
        (fun h' => h'.files.createPrivate h'.workingDirectory (temporaryPath c h) [] h'.now) h =
          (.ok (), { h with files := fs₁ }) ∧
      Made h.files { h with files := fs₁ } d name (temporaryPath c h) := by
  obtain ⟨n, hfresh, hvacant, hname, hlen⟩ := freshName_vacant hp hr.opensAt hr.temporaryLength hr.nodes
  have hnul := hr.nul
  rw [show c.cacheFilePath = c.cacheDirPath.entry c.cacheFile from LexicalPath.join_parse_plain _ hf,
    holdsNul_entry_iff hp hf] at hnul
  obtain ⟨hresolve, htemporary⟩ := resolve_temporaryPath hp (LexicalPath.absolute_eq_self hp _) hr.opensAt hnul.1 hfresh
    hvacant hname hlen
  obtain ⟨fs₁, hcreate, hmade⟩ := Cache.exists_made hresolve hr.isWritableAt htemporary
  exact ⟨fs₁, _, hcreate, hmade⟩

/-- Where there is room, the new file can be moved to the cache file. -/
theorem Room.exists_moved (hr : Room c h d) (hp : c.cacheDirPath.Normal) (hf : IsPlainName c.cacheFile)
    (hfill : Filled h.files fs₁ h' d name path record) (hcwd : h'.workingDirectory = h.workingDirectory) :
    ∃ fs₂, fs₁.rename h'.workingDirectory path c.cacheFilePath.spelling h'.now = .ok fs₂ := by
  have hcache : c.cacheFilePath = c.cacheDirPath.entry c.cacheFile := LexicalPath.join_parse_plain _ hf
  have hlength := hr.pathLength
  rw [hcache] at hlength ⊢
  have htarget : fs₁.resolve h'.workingDirectory false (c.cacheDirPath.entry c.cacheFile).spelling =
      .ok (fs₁.entry d c.cacheFile) := by
    rw [hcwd]
    exact (resolve_entry_iff hp hf).2 ⟨hlength, hr.nameLength, d, hr.opensAt.grow hfill.adds.keeps.grows, rfl⟩
  have hlocation : (fs₁.entry d c.cacheFile).location = c.cacheFile :: d := by
    unfold FileSystem.entry
    split_ifs <;> rfl
  have hdir : fs₁.isDirectoryAt (c.cacheFile :: d) = false := by
    cases hdir : fs₁.isDirectoryAt (c.cacheFile :: d) with
    | false => rfl
    | true =>
        obtain ⟨node, hnode, hd⟩ := isDirectoryAt_iff.1 hdir
        rcases hfill.adds.of_node? hnode with ⟨-, rfl⟩ | ⟨m, hm, hk⟩
        · cases hd
        · rw [hk.alike.isDirectory_eq, ← isDirectoryAt_of_node? hm, hr.notDirectory] at hd
          cases hd
  refine rename_of_found _ hfill.found hfill.adds.node?_new hfill.adds.mayRemoveAt htarget (lacksName_entry hp hf) ?_ ?_ ?_
  · rw [hlocation]
    exact not_suffix_tail
  · rw [hlocation]
    exact hfill.adds.mayRemoveAt
  · rw [hlocation, hdir]

/-- A record is written where there is room for it once the directories are made, if there is one. -/
theorem writeRecord_of_room (hp : c.cacheDirPath.Normal) (hf : IsPlainName c.cacheFile)
    (hfirst : makePath c.cacheDirPath h = (.ok (), h₁)) (hsecond : makePath c.compilerCachePath h₁ = (.ok (), h₂))
    (hr : Room c h₂ d) : (writeRecord c l h).1 = if l.record?.isSome then .ok () else .error .notText := by
  obtain ⟨fs₁, name, hcreate, hmade⟩ := hr.exists_made hp hf
  cases hl : l.record? with
  | none =>
      rw [writeRecord_eq, bind_of_ok hfirst, bind_of_ok hsecond, look_bind, bind_of_ok hcreate]
      rcases hinstall : installRecord c l (temporaryPath c h₂) { h₂ with files := fs₁ } with ⟨r, h₃⟩
      rw [installRecord, hl] at hinstall
      exact (congrArg Prod.fst hinstall).symm
  | some record =>
      obtain ⟨h', hwrite⟩ := writeRecord_of_made hfirst hsecond hcreate hmade hl hr.nul fun fs₂ hfill =>
        (hr.exists_moved hp hf hfill rfl :)
      rw [hwrite]
      rfl

end Cache

end RequirePath
