import RequirePath.Proofs.Cache.Codec
import RequirePath.Proofs.Cache.Quiet
import RequirePath.Proofs.File.Temporary

/-! The writing of a record. The cache file gets the bytes of the record when the writing succeeds. When it
fails, the cache file stays as it was, also where the new file happens to have its name. -/

namespace RequirePath

open FileSystem RequirePath.Action

namespace Cache

variable {c : Config} {l : Loaded} {h h' : Host} {path : Pathname} {e : Failure} {d q : Location}
variable {p : LexicalPath} {file name : Filename}

/-! ### Names of new files -/

theorem slash_notMem_encodeChar {ch : Char} (h : ch ≠ '/') : slash ∉ Utf8.encodeChar ch := by
  have hlt := Utf8.toNat_lt ch
  have hbyte : ∀ {n : Nat}, n < 256 → n ≠ 47 → slash ≠ n.toUInt8 := by
    intro n hn hne he
    have := congrArg UInt8.toNat he
    rw [Utf8.toNat_toUInt8 hn] at this
    exact hne this.symm
  have hne : ch.toNat ≠ 47 := fun he => h (by rw [← Char.ofNat_toNat ch, he])
  unfold Utf8.encodeChar
  dsimp only
  split_ifs with h₁ h₂ h₃
  · simpa using hbyte (by omega) hne
  · simp only [List.mem_cons, List.not_mem_nil, or_false, not_or]
    exact ⟨hbyte (by omega) (by omega), hbyte (by omega) (by omega)⟩
  · simp only [List.mem_cons, List.not_mem_nil, or_false, not_or]
    exact ⟨hbyte (by omega) (by omega), hbyte (by omega) (by omega), hbyte (by omega) (by omega)⟩
  · simp only [List.mem_cons, List.not_mem_nil, or_false, not_or]
    exact ⟨hbyte (by omega) (by omega), hbyte (by omega) (by omega), hbyte (by omega) (by omega),
      hbyte (by omega) (by omega)⟩

/-- The name of a new file is plain. -/
theorem isPlainName_temporaryName (n : Nat) : IsPlainName (temporaryName n) := by
  have hcs : temporaryName n = Utf8.encode ("load_paths_".toList ++ (Calendar.padded 8 n).toList ++ ".tmp".toList) := by
    rw [temporaryName, Pathname.ofText, String.toList_append, String.toList_append]
  have hlen : 11 ≤ (temporaryName n).length := by
    rw [hcs, Utf8.encode_append, Utf8.encode_append, List.length_append, List.length_append]
    have : (Utf8.encode "load_paths_".toList).length = 11 := by decide
    omega
  refine ⟨?_, ?_, ?_, ?_⟩
  · rintro he
    simp [he] at hlen
  · rw [hcs, Utf8.encode, List.mem_flatMap]
    rintro ⟨ch, hch, hm⟩
    have hslash : ch ≠ '/' := by
      rintro rfl
      rcases List.mem_append.1 hch with hch | hch
      · rcases List.mem_append.1 hch with hch | hch
        · exact absurd hch (by decide)
        · rw [Calendar.padded, String.toList_ofList] at hch
          rcases List.mem_append.1 hch with hch | hch
          · exact absurd (List.eq_of_mem_replicate hch) (by decide)
          · exact absurd (Nat.isDigit_of_mem_toDigits (by decide) (by decide) hch) (by decide)
      · exact absurd hch (by decide)
    exact slash_notMem_encodeChar hslash hm
  · intro he
    rw [he] at hlen
    exact absurd hlen (by decide)
  · intro he
    rw [he] at hlen
    exact absurd hlen (by decide)

theorem freshName_eq (h : Host) (directory : Pathname) : ∃ n, freshName h directory = temporaryName n :=
  ⟨_, rfl⟩

/-- The path of the new file that a record is written to first. -/
def temporaryPath (c : Config) (h : Host) : Pathname :=
  let directory := (LexicalPath.absolute h.workingPath c.cacheDirPath).spelling
  Pathname.tidyChild directory (freshName h directory)

theorem endsInSlash_temporaryPath (c : Config) (h : Host) : endsInSlash (temporaryPath c h) = false := by
  obtain ⟨n, hn⟩ := freshName_eq h (LexicalPath.absolute h.workingPath c.cacheDirPath).spelling
  have hplain := isPlainName_temporaryName n
  obtain ⟨b, bs, hb⟩ := List.exists_cons_of_ne_nil hplain.ne_nil
  have hlast : ∀ xs : List UInt8, (xs ++ temporaryName n).getLast? ≠ some slash := by
    intro xs he
    rw [List.getLast?_append] at he
    cases hl : (temporaryName n).getLast? with
    | none =>
        rw [List.getLast?_eq_none_iff] at hl
        exact hplain.ne_nil hl
    | some x =>
        rw [hl] at he
        cases he
        exact hplain.slash_notMem (List.mem_of_getLast? hl)
  rw [endsInSlash, beq_eq_false_iff_ne, temporaryPath]
  simp only [hn, Pathname.tidyChild]
  split_ifs
  · exact hlast _
  · rw [Pathname.child, ← List.singleton_append, ← List.append_assoc]
    exact hlast _

/-- Beside a normal path the new file is an entry of it. -/
theorem temporaryPath_eq (hp : c.cacheDirPath.Normal) (h : Host) :
    ∃ name, IsPlainName name ∧ temporaryPath c h = (c.cacheDirPath.entry name).spelling := by
  obtain ⟨n, hn⟩ := freshName_eq h c.cacheDirPath.spelling
  refine ⟨temporaryName n, isPlainName_temporaryName n, ?_⟩
  simp only [temporaryPath, LexicalPath.absolute_eq_self hp, hn]
  exact LexicalPath.tidyChild_spelling hp (isPlainName_temporaryName n)

/-! ### The end of the writing -/

/-- Gives the new file the bytes of a record and moves it to the cache file; without a record it is removed. -/
def installRecord (c : Config) (l : Loaded) (path : Pathname) : Action Unit :=
  match l.record? with
  | none => do
    let _ ← attempt <| changeFiles path fun h => h.files.removeFile h.workingDirectory path h.now
    fail .notText
  | some record => do
    changeFiles path fun h => h.files.write h.workingDirectory path record.encode h.now
    let target := c.cacheFilePath.spelling
    changeFiles target fun h => h.files.rename h.workingDirectory path target h.now

theorem writeRecord_eq : writeRecord c l = (do
    makePath c.cacheDirPath
    makePath c.compilerCachePath
    let path ← look (temporaryPath c)
    changeFiles path fun h => h.files.createPrivate h.workingDirectory path [] h.now
    installRecord c l path) := by
  rfl

/-- The making of a new file as the start of an installation: what it adds and where it is found. -/
structure Made (fs : FileSystem) (h : Host) (d : Location) (name : Filename) (path : Pathname) : Prop where
  nul : Pathname.holdsNul path = false
  adds : Adds fs h.files d name ⟨.file [], Node.privateMode, h.now⟩ h.now
  found : ∀ follow, h.files.resolve h.workingDirectory follow path = .ok (.found (name :: d))

/-- The new file has the bytes of a record. -/
structure Filled (fs fs₁ : FileSystem) (h : Host) (d : Location) (name : Filename) (path : Pathname)
    (record : Record) : Prop where
  written : h.files.write h.workingDirectory path record.encode h.now = .ok fs₁
  adds : Adds fs fs₁ d name ⟨.file record.encode, Node.privateMode, h.now⟩ h.now
  found : fs₁.resolve h.workingDirectory false path = .ok (.found (name :: d))

variable {fs : FileSystem}

theorem Made.fill (hm : Made fs h d name path) (record : Record) : ∃ fs₁, Filled fs fs₁ h d name path record := by
  obtain ⟨fs₁, hw, ha⟩ := hm.adds.write (hm.found true) record.encode
  exact ⟨fs₁, hw, ha, resolve_grow (write_grows hw) (hm.found false)⟩

/-- A record that is text is written to the new file, which is then moved. -/
theorem installRecord_some {r : Except Failure Unit} {record : Record} (hm : Made fs h d name path)
    (hl : l.record? = some record) (ha : installRecord c l path h = (r, h')) :
    ∃ fs₁, Filled fs fs₁ h d name path record ∧
      changeFiles c.cacheFilePath.spelling
        (fun h => h.files.rename h.workingDirectory path c.cacheFilePath.spelling h.now) { h with files := fs₁ } =
          (r, h') := by
  obtain ⟨fs₁, hf⟩ := hm.fill record
  refine ⟨fs₁, hf, ?_⟩
  have hw : changeFiles path (fun h => h.files.write h.workingDirectory path record.encode h.now) h =
      (.ok (), { h with files := fs₁ }) := by
    simp [changeFiles, hm.nul, hf.written]
  rw [installRecord, hl] at ha
  exact (bind_of_ok hw).symm.trans ha

/-- Without a record the new file is removed. -/
theorem installRecord_none {r : Except Failure Unit} (hm : Made fs h d name path) (hl : l.record? = none)
    (ha : installRecord c l path h = (r, h')) :
    h.files.removeFile h.workingDirectory path h.now = .ok h'.files ∧ (∃ e, r = .error e) ∧ Keeps fs h'.files ∧
      ∀ q, q ≠ d → h'.files.node? q = fs.node? q := by
  obtain ⟨fs₁, hr, hk, hn⟩ := hm.adds.removeFile rfl (hm.found false)
  have hremove : attempt (changeFiles path fun h => h.files.removeFile h.workingDirectory path h.now) h =
      (.ok (.ok ()), { h with files := fs₁ }) :=
    attempt_eq (by simp [changeFiles, hm.nul, hr])
  rw [installRecord, hl] at ha
  replace ha : (attempt (changeFiles path fun h => h.files.removeFile h.workingDirectory path h.now) >>=
      fun _ => fail .notText) h = (r, h') := ha
  rw [bind_of_ok hremove] at ha
  obtain ⟨rfl, rfl⟩ := Prod.mk.inj ha
  exact ⟨hr, ⟨_, rfl⟩, hk, hn⟩

/-- A failed installation leaves the cache file as it was, and everything else that was there. -/
theorem installRecord_error (hp : c.cacheDirPath.Normal) (hfile : IsPlainName file)
    (hc : c.cacheFilePath = c.cacheDirPath.entry file) (hpath : path = (c.cacheDirPath.entry name).spelling)
    (hm : Made fs h d name path) (ha : installRecord c l path h = (.error e, h')) :
    Keeps fs h'.files ∧ h'.files.node? (file :: d) = fs.node? (file :: d) := by
  cases hl : l.record? with
  | none =>
      obtain ⟨-, -, hk, hn⟩ := installRecord_none hm hl ha
      exact ⟨hk, hn _ (List.cons_ne_self _ _)⟩
  | some record =>
      obtain ⟨fs₁, hf, hmove⟩ := installRecord_some hm hl ha
      have hend := changeFiles_error hmove
      rw [hend]
      refine ⟨hf.adds.keeps, ?_⟩
      by_cases hname : file = name
      · -- a new file with the name of the cache file is moved to its own path, which cannot fail
        rw [hc, hname, ← hpath] at hmove
        have hlack : lacksName path = false := by
          rw [hpath, ← hname]
          exact lacksName_entry hp hfile
        obtain ⟨fs₂, hself⟩ := hf.adds.rename_self rfl hf.found hlack
        simp [changeFiles, hm.nul, hself] at hmove
      · refine hf.adds.node?_of_ne (fun he => hname (List.cons.inj he).1) (List.cons_ne_self _ _)

/-- A successful installation moves the new file, with the bytes of the record, to the cache file. -/
theorem installRecord_ok (hm : Made fs h d name path) (ha : installRecord c l path h = (.ok (), h')) :
    ∃ record fs₁ target, l.record? = some record ∧ Filled fs fs₁ h d name path record ∧
      fs₁.resolve h.workingDirectory false c.cacheFilePath.spelling = .ok target ∧
      steps c.cacheFilePath.spelling ≠ [] ∧
      Moves fs₁ h'.files (name :: d) target.location ⟨.file record.encode, Node.privateMode, h.now⟩ := by
  cases hl : l.record? with
  | none =>
      obtain ⟨-, ⟨e, he⟩, -⟩ := installRecord_none hm hl ha
      cases he
  | some record =>
      obtain ⟨fs₁, hf, hmove⟩ := installRecord_some hm hl ha
      obtain ⟨-, fs₂, hr, rfl⟩ := changeFiles_ok hmove
      obtain ⟨source, target, node, hs, ht, hsteps, hmoves⟩ := rename_ok hr fun q n hq hn => by
        have hfound := hf.found.symm.trans hq
        cases hfound
        have hnew := hn.symm.trans hf.adds.node?_new
        cases hnew
        rfl
      have hfound := hf.found.symm.trans hs
      cases hfound
      have hnode := hmoves.found.symm.trans hf.adds.node?_new
      cases hnode
      exact ⟨record, fs₁, target, rfl, hf, ht, hsteps, hmoves⟩

/-! ### The writing as a whole -/

/-- What follows the making of the cache directories is not reached, or starts when both are made. -/
theorem makeDirectories_cases {α : Type} {next : Action α} {r : Except Failure α}
    (ha : (makePath c.cacheDirPath >>= fun _ => makePath c.compilerCachePath >>= fun _ => next) h = (r, h')) :
    ∃ r₁ h₁, makePath c.cacheDirPath h = (r₁, h₁) ∧
      (h' = h₁ ∧ (∃ e, r = .error e) ∨ ∃ r₂ h₂, makePath c.compilerCachePath h₁ = (r₂, h₂) ∧
        (h' = h₂ ∧ (∃ e, r = .error e) ∨ next h₂ = (r, h'))) := by
  rcases bind_cases ha with ⟨e, h₁, he⟩ | ⟨u, s₁, h₁, hgo⟩
  · exact ⟨_, h', h₁, Or.inl ⟨rfl, e, he⟩⟩
  rcases bind_cases hgo with ⟨e, h₂, he⟩ | ⟨u, s₂, h₂, hnext⟩
  · exact ⟨_, s₁, h₁, Or.inr ⟨_, h', h₂, Or.inl ⟨rfl, e, he⟩⟩⟩
  · exact ⟨_, s₁, h₁, Or.inr ⟨_, s₂, h₂, Or.inr hnext⟩⟩

/-- The writing ends in the making of directories, or makes a new file and installs the record from it. -/
theorem writeRecord_cases {r : Except Failure Unit} (ha : writeRecord c l h = (r, h')) :
    ∃ r₁ h₁, makePath c.cacheDirPath h = (r₁, h₁) ∧
      (h' = h₁ ∧ (∃ e, r = .error e) ∨ ∃ r₂ h₂, makePath c.compilerCachePath h₁ = (r₂, h₂) ∧
        (h' = h₂ ∧ (∃ e, r = .error e) ∨ ∃ fs₁ d name, let path := temporaryPath c h₂
          h₂.files.createPrivate h₂.workingDirectory path [] h₂.now = .ok fs₁ ∧
          h₂.files.resolve h₂.workingDirectory false path = .ok (.vacant d name) ∧
          Made h₂.files { h₂ with files := fs₁ } d name path ∧
          installRecord c l path { h₂ with files := fs₁ } = (r, h'))) := by
  rw [writeRecord_eq] at ha
  obtain ⟨r₁, s₁, h₁, hstop | ⟨r₂, s₂, h₂, hstop | hnext⟩⟩ := makeDirectories_cases ha
  · exact ⟨r₁, s₁, h₁, Or.inl hstop⟩
  · exact ⟨r₁, s₁, h₁, Or.inr ⟨r₂, s₂, h₂, Or.inl hstop⟩⟩
  refine ⟨r₁, s₁, h₁, Or.inr ⟨r₂, s₂, h₂, ?_⟩⟩
  rw [look_bind] at hnext
  rcases bind_cases hnext with ⟨e, h₃, he⟩ | ⟨u, s₃, h₃, hinstall⟩
  · exact Or.inl ⟨changeFiles_error h₃, e, he⟩
  · obtain ⟨hnul, fs₁, hcreate, rfl⟩ := changeFiles_ok h₃
    obtain ⟨d, name, hv, hadds, hfound⟩ := createPrivate_found (endsInSlash_temporaryPath c s₂) hcreate
    exact Or.inr ⟨fs₁, d, name, hcreate, hv, ⟨hnul, hadds, hfound⟩, hinstall⟩

/-- A successful writing has made the directories and installed the record from a new file. -/
theorem writeRecord_ok (ha : writeRecord c l h = (.ok (), h')) :
    ∃ h₁ h₂ fs₁ d name, makePath c.cacheDirPath h = (.ok (), h₁) ∧ makePath c.compilerCachePath h₁ = (.ok (), h₂) ∧
      h₂.files.resolve h₂.workingDirectory false (temporaryPath c h₂) = .ok (.vacant d name) ∧
      Made h₂.files { h₂ with files := fs₁ } d name (temporaryPath c h₂) ∧
      installRecord c l (temporaryPath c h₂) { h₂ with files := fs₁ } = (.ok (), h') := by
  rw [writeRecord_eq] at ha
  obtain ⟨⟨⟩, h₁, hfirst, ha⟩ := of_bind_ok ha
  obtain ⟨⟨⟩, h₂, hsecond, ha⟩ := of_bind_ok ha
  rw [look_bind] at ha
  obtain ⟨⟨⟩, h₃, hchange, hinstall⟩ := of_bind_ok ha
  obtain ⟨hnul, fs₁, hcreate, rfl⟩ := changeFiles_ok hchange
  obtain ⟨d, name, hv, hadds, hfound⟩ := createPrivate_found (endsInSlash_temporaryPath c h₂) hcreate
  exact ⟨h₁, h₂, fs₁, d, name, hfirst, hsecond, hv, ⟨hnul, hadds, hfound⟩, hinstall⟩

end Cache

end RequirePath
