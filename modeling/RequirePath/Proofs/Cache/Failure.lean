import RequirePath.Proofs.Cache.Reload

/-! What a failed load or rebuild leaves of the cache. A failed rebuild leaves the node at the path of the cache
file, and so does a failed load if the cache file could be used. Otherwise a failed load may leave the
placeholder; it may also make a directory that a link at the path of the cache file leads through, and what it
uncovers so is read as it was. -/

namespace RequirePath

open FileSystem RequirePath.Action

namespace Cache

variable {c : Config} {l : Loaded} {h h' : Host} {e : Failure} {fs fs' : FileSystem} {cwd q : Location}
variable {p : LexicalPath} {name : Filename} {bytes : List UInt8} {n : Node}

/-- Nodes stay, and what is at the path of the cache file, its link not followed, is the same. -/
structure Spares (c : Config) (h h' : Host) : Prop where
  workingDirectory : h'.workingDirectory = h.workingDirectory
  keeps : Keeps h.files h'.files
  entry : SameEntry h.files h'.files h.workingDirectory c.cacheFilePath.spelling

theorem spares_refl (c : Config) (h : Host) : Spares c h h := ⟨rfl, keeps_refl _, sameEntry_refl _ _⟩

theorem Spares.trans {h'' : Host} (a : Spares c h h') (b : Spares c h' h'') : Spares c h h'' := by
  refine ⟨b.workingDirectory.trans a.workingDirectory, a.keeps.trans b.keeps, a.entry.trans ?_⟩
  have hb := b.entry
  rwa [a.workingDirectory] at hb

theorem spares_of_rests (hr : Rests h h') : Spares c h h' := by
  refine ⟨hr.continues.workingDirectory, ?_, ?_⟩
  · rw [hr.files]
    exact keeps_refl _
  · rw [hr.files]
    exact sameEntry_refl _ _

theorem makePath_spares (hc : c.PlainCache) {r : Except Failure Unit} (ha : makePath c.cacheDirPath h = (r, h')) :
    Spares c h h' := by
  obtain ⟨hs, hk⟩ := makePath_keeps ha
  refine ⟨by rw [hs], hk, ?_⟩
  rw [hc.cacheFilePath_eq]
  exact makePath_sameEntry hc.normal hc.cacheFile ha

theorem makePath_compiler_spares (hc : c.PlainCache) {r : Except Failure Unit}
    (ha : makePath c.compilerCachePath h = (r, h')) : Spares c h h' := by
  obtain ⟨hs, hk⟩ := makePath_keeps ha
  refine ⟨by rw [hs], hk, ?_⟩
  rw [hc.compilerCachePath_eq] at ha
  rw [hc.cacheFilePath_eq]
  exact makePath_entry_sameEntry hc.normal hc.cacheFile hc.compilerCacheDir hc.distinct ha

/-- A record that is not written spares the cache file. -/
theorem writeRecord_spares (hc : c.PlainCache) (hl : h.LogsToConsole) (ha : writeRecord c l h = (.error e, h')) :
    Spares c h h' := by
  have hcwd := (writeRecord_continues hl ha).workingDirectory
  obtain ⟨r₁, s₁, h₁, ⟨rfl, -⟩ | ⟨r₂, s₂, h₂, ⟨rfl, -⟩ | ⟨fs₁, d, name, -, hv, hmade, hi⟩⟩⟩ := writeRecord_cases ha
  · exact makePath_spares hc h₁
  · exact (makePath_spares hc h₁).trans (makePath_compiler_spares hc h₂)
  · have hbefore := (makePath_spares hc h₁).trans (makePath_compiler_spares hc h₂)
    obtain ⟨x, hx, hpath⟩ := temporaryPath_eq hc.normal s₂
    rw [hpath] at hv
    obtain ⟨rfl, hd, -⟩ := resolve_entry_vacant hc.normal hx hv
    obtain ⟨hk, hnode⟩ := installRecord_error hc.normal hc.cacheFile hc.cacheFilePath_eq hpath hmade hi
    refine hbefore.trans ⟨by rw [hcwd, hbefore.workingDirectory], hk, ?_⟩
    rw [hc.cacheFilePath_eq]
    exact sameEntry_of_node? hc.normal hc.cacheFile hd (hd.grow hk.grows) hnode

/-- A failed rebuild spares the cache file. -/
theorem rebuild_spares (hc : c.PlainCache) (hl : h.LogsToConsole) (ha : rebuild c h = (.error e, h')) :
    Spares c h h' := by
  rcases rebuild_cases hl ha with ⟨hr, -⟩ | ⟨l, s₁, r₂, s₂, hr, -, hw, ⟨e', rfl, -, rfl⟩ | ⟨-, he, -⟩⟩
  · exact spares_of_rests hr
  · exact (spares_of_rests hr).trans (writeRecord_spares hc (hr.continues.logsToConsole hl) hw)
  · cases he

/-! ### What is read at the path of the cache file -/

/-- The bytes that the path of the cache file gives, if it can be read. -/
def bytes? (c : Config) (h : Host) : Option (List UInt8) :=
  (h.files.read h.workingDirectory c.cacheFilePath.spelling).toOption

theorem bytes?_eq_some_iff : bytes? c h = some bytes ↔
    h.files.read h.workingDirectory c.cacheFilePath.spelling = .ok bytes := by
  unfold bytes?
  cases h.files.read h.workingDirectory c.cacheFilePath.spelling <;> simp [Except.toOption]

/-- The node at the path of the cache file is as it was, and so is a file that the path leads to. -/
def SameNode (c : Config) (h h' : Host) : Prop :=
  (h'.files.linkStatus h'.workingDirectory c.cacheFilePath.spelling).toOption =
      (h.files.linkStatus h.workingDirectory c.cacheFilePath.spelling).toOption ∧
    ∀ n, h.files.status h.workingDirectory c.cacheFilePath.spelling = .ok n → n.isFile = true →
      h'.files.status h'.workingDirectory c.cacheFilePath.spelling = .ok n

theorem Spares.sameNode (hs : Spares c h h') : SameNode c h h' := by
  rw [SameNode, hs.workingDirectory]
  refine ⟨hs.entry.toOption_eq, fun n hn hf => ?_⟩
  obtain ⟨n', hn', hk⟩ := status_of_keeps hs.keeps hn
  rwa [hk.eq (Node.isDirectory_of_isFile hf)] at hn'

/-- What is read stays where nodes do and the path led to one. -/
theorem bytes?_of_status (hs : Spares c h h') (hn : h.files.status h.workingDirectory c.cacheFilePath.spelling = .ok n) :
    bytes? c h' = bytes? c h := by
  obtain ⟨n', hn', hk⟩ := status_of_keeps hs.keeps hn
  unfold bytes?
  rw [FileSystem.read, FileSystem.read, hs.workingDirectory, hn, hn']
  dsimp only
  cases hd : n.isDirectory with
  | false => rw [hk.eq hd]
  | true =>
      have hc : n.content = .directory := eq_of_beq hd
      have hc' : n'.content = .directory := by rw [hk.content_eq, hc]
      rw [hc, hc']
      cases n.readable <;> cases n'.readable <;> rfl

/-- The path of the cache file is that of a link that leads nowhere. -/
def IsBrokenLink (c : Config) (h : Host) : Prop :=
  (∃ n, h.files.linkStatus h.workingDirectory c.cacheFilePath.spelling = .ok n ∧ n.isLink = true) ∧
    ∀ n, h.files.status h.workingDirectory c.cacheFilePath.spelling ≠ .ok n

/-- What is read is as before, or the placeholder, or the bytes of a file that was there before and is now led
to by a link that led nowhere. -/
def ReadsSafely (c : Config) (h h' : Host) : Prop :=
  bytes? c h' = bytes? c h ∨ bytes? c h' = some Record.placeholder ∨
    IsBrokenLink c h ∧ ∃ q n bytes, h.files.node? q = some n ∧ h'.files.node? q = some n ∧
      n.content = .file bytes ∧ bytes? c h' = some bytes

theorem linkStatus_of_resolve (hc : c.PlainCache) (h : fs.resolve cwd false c.cacheFilePath.spelling = .ok (.found q)) :
    ∃ n, fs.linkStatus cwd c.cacheFilePath.spelling = .ok n := by
  rw [hc.cacheFilePath_eq] at h ⊢
  obtain ⟨hlen, hname, d, hd, hpl⟩ := (resolve_entry_iff hc.normal hc.cacheFile).1 h
  unfold entry at hpl
  split at hpl
  · next hsome =>
      obtain ⟨n, hn⟩ := Option.isSome_iff_exists.1 hsome
      exact ⟨n, (linkStatus_entry_iff hc.normal hc.cacheFile).2 ⟨hlen, hname, d, hd, hn⟩⟩
  · cases hpl

/-- A path that is spared and that led nowhere leads to nothing new, unless it is that of a link. -/
theorem Spares.readsSafely (hc : c.PlainCache) (hs : Spares c h h')
    (hold : ∀ q n, h'.files.node? q = some n → n.isFile = true → h.files.node? q = some n) : ReadsSafely c h h' := by
  cases hstatus : h.files.status h.workingDirectory c.cacheFilePath.spelling with
  | ok n => exact Or.inl (bytes?_of_status hs hstatus)
  | error e =>
      have hnone : bytes? c h = none := by
        rw [bytes?, FileSystem.read, hstatus]
        rfl
      cases hb : bytes? c h' with
      | none =>
          refine Or.inl ?_
          rw [hb, hnone]
      | some bytes =>
          obtain ⟨n, hn, -, hcontent⟩ := read_eq_ok_iff.1 (bytes?_eq_some_iff.1 hb)
          obtain ⟨q, hq, hn⟩ := status_eq_ok_iff.1 hn
          have hfile : n.isFile = true := Node.isFile_iff.2 ⟨bytes, hcontent⟩
          refine Or.inr (Or.inr ⟨⟨?_, by simp [hstatus]⟩, q, n, bytes, hold q n hn hfile, hn, hcontent, hb⟩)
          obtain ⟨q', hq'⟩ := resolve_unfollow hq
          obtain ⟨m, hm⟩ := linkStatus_of_resolve hc hq'
          rw [hs.workingDirectory] at hm
          refine ⟨m, (hs.entry m).1 hm, ?_⟩
          cases hl : m.isLink with
          | true => rfl
          | false =>
              have := status_of_linkStatus ((hs.entry m).1 hm) hl
              rw [hstatus] at this
              cases this

/-! ### The check of the cache file -/

theorem ensureCacheFile_error (hc : c.PlainCache) (ha : ensureCacheFile c h = (.error e, h')) :
    Spares c h h' ∧ ∀ q n, h'.files.node? q = some n → n.isFile = true → h.files.node? q = some n := by
  rcases ensureCacheFile_cases ha with ⟨rfl, -⟩ | ⟨-, he, -⟩ | ⟨-, hp⟩
  · exact ⟨spares_refl c _, fun _ _ hn _ => hn⟩
  · cases he
  · obtain ⟨r₁, s₁, h₁, ⟨rfl, -⟩ | ⟨r₂, s₂, h₂, ⟨rfl, -⟩ | ⟨fs, -, -, -, he⟩⟩⟩ := writePlaceholder_cases hp
    · exact ⟨makePath_spares hc h₁, fun q n hn hf => makePath_files h₁ hn hf⟩
    · exact ⟨(makePath_spares hc h₁).trans (makePath_compiler_spares hc h₂),
        fun q n hn hf => makePath_files h₁ (makePath_files h₂ hn hf) hf⟩
    · cases he

/-- After a placeholder is written, as long as nodes stay, it is what is read, or nothing is, as before. -/
theorem placeholder_readsSafely {h₁ : Host} {b : Bool} (hp : writePlaceholder c h = (.ok b, h₁))
    (hs : Spares c h₁ h') : ReadsSafely c h h' := by
  obtain ⟨r₁, s₁, h₁, ⟨-, e, he⟩ | ⟨r₂, s₂, h₂, ⟨-, e, he⟩ | ⟨fs, -, hw, rfl, -⟩⟩⟩ := writePlaceholder_cases hp
  · cases he
  · cases he
  obtain ⟨hs₁, hk₁⟩ := makePath_keeps h₁
  obtain ⟨hs₂, hk₂⟩ := makePath_keeps h₂
  have hcwd₂ : s₂.workingDirectory = h.workingDirectory := by rw [hs₂, hs₁]
  have hcwd : h'.workingDirectory = s₂.workingDirectory := hs.workingDirectory
  have hkeeps : Keeps fs h'.files := hs.keeps
  cases hb : bytes? c h' with
  | none =>
      -- the path leads to a file that may not be read, and that was so before
      refine Or.inl ?_
      rw [hb]
      cases hb₀ : bytes? c h with
      | none => rfl
      | some bytes =>
          have hread := read_of_keeps (hk₁.trans hk₂) (bytes?_eq_some_iff.1 hb₀)
          rw [← hcwd₂] at hread
          have hafter := read_written hread hw hkeeps
          rw [← hcwd] at hafter
          rw [bytes?_eq_some_iff.2 hafter] at hb
          cases hb
  | some bytes =>
      refine Or.inr (Or.inl ?_)
      have hread := bytes?_eq_some_iff.1 hb
      rw [hcwd] at hread
      rw [hb, eq_of_read_written hw hkeeps hread]

/-! ### Failed loads -/

theorem proceed_spares (hc : c.PlainCache) (hl : h.LogsToConsole) {usable : Bool}
    (ha : proceed c usable h = (.error e, h')) : Spares c h h' := by
  rcases proceed_cases hl ha with ⟨hr, -⟩ | ⟨-, -, -, record, -, he⟩ | ⟨s₁, hpause, hreb⟩
  · exact spares_of_rests hr
  · cases he
  · exact (spares_of_rests hpause.toRests).trans (rebuild_spares hc (hpause.continues.logsToConsole hl) hreb)

/-- A failed load spares the cache file, or has written the placeholder where the cache file could not be used
before it went on. -/
theorem loadOrRebuild_error (hc : c.PlainCache) (hl : h.LogsToConsole) (ha : loadOrRebuild c h = (.error e, h')) :
    ReadsSafely c h h' ∧ (Spares c h h' ∨ ¬Usable c h ∧ Pathname.holdsNul c.cacheFilePath.spelling = false) := by
  rcases loadOrRebuild_cases hl ha with ⟨hr, -⟩ | ⟨-, -, ⟨e', hensure, -⟩ | ⟨usable, s₁, hensure, hproceed⟩⟩
  · have hs : Spares c h h' := spares_of_rests hr
    refine ⟨Or.inl ?_, Or.inl hs⟩
    rw [bytes?, bytes?, hr.files, hr.continues.workingDirectory]
  · obtain ⟨hs, hold⟩ := ensureCacheFile_error hc hensure
    exact ⟨hs.readsSafely hc hold, Or.inl hs⟩
  · rcases ensureCacheFile_cases hensure with ⟨-, e', he⟩ | ⟨rfl, -, -, n, hn, -⟩ | ⟨hu, hp⟩
    · cases he
    · have hs := proceed_spares hc hl hproceed
      exact ⟨Or.inl (bytes?_of_status hs hn), Or.inl hs⟩
    · obtain ⟨_, _, _, ⟨-, e', he⟩ | ⟨_, _, _, ⟨-, e', he⟩ | ⟨_, hnul, -, -, -⟩⟩⟩ := writePlaceholder_cases hp
      · cases he
      · cases he
      · have hc₁ := (ensureCacheFile_continues hensure).logsToConsole hl
        exact ⟨placeholder_readsSafely hp (proceed_spares hc hc₁ hproceed), Or.inr ⟨hu, hnul⟩⟩

end Cache

namespace Store

open Pathname (ofText)

variable {c : Config} {s : Store} {h h' : Host}

theorem keeping_error {act : Action Loaded} {e : Failure} {s' : Store}
    (ha : s.keeping act h = ((.error e, s'), h')) : s' = s ∧ act h = (.error e, h') :=
  (keeping_eq ha).symm

/-- What failures leave behind. A failed rebuild leaves the store and the node at the path of the cache file. A
failed load leaves the store unloaded; it leaves that node if the path leads to a file that may be read and
written; and what is read there is as before, or the placeholder, or a file that a broken link has come to lead
to. -/
theorem failure_loses_nothing (hc : c.PlainCache) (hl : h.LogsToConsole) :
    (∀ (s : Store) (e : Failure) (s' : Store) (h' : Host), s.config = c → s.rebuild h = ((.error e, s'), h') →
      s' = s ∧ Cache.SameNode c h h') ∧
    ∀ (s : Store) (e : Failure) (s' : Store) (h' : Host), s.config = c → s.loaded = none →
      s.load h = ((.error e, s'), h') →
        s' = s ∧ Cache.ReadsSafely c h h' ∧
          ∀ n, h.files.status h.workingDirectory c.cacheFilePath.spelling = .ok n → n.isFile = true →
            n.readable = true → n.writable = true → Cache.SameNode c h h' := by
  constructor
  · rintro s e s' h' rfl ha
    obtain ⟨rfl, hr⟩ := keeping_error ha
    exact ⟨rfl, (Cache.rebuild_spares hc hl hr).sameNode⟩
  · rintro s e s' h' rfl hs ha
    simp only [load, hs] at ha
    obtain ⟨rfl, hr⟩ := keeping_error ha
    obtain ⟨hreads, hspares⟩ := Cache.loadOrRebuild_error hc hl hr
    refine ⟨rfl, hreads, fun n hn hf hread hwrite => ?_⟩
    rcases hspares with hsp | ⟨hu, hnul⟩
    · exact hsp.sameNode
    · exact absurd ⟨hnul, n, hn, hf, hread, hwrite⟩ hu

/-- Where the load-path command cannot be started, a failed rebuild makes no cache file, and a failed load leaves
the placeholder. -/
theorem failure_loses_nothing_sample :
    let h : Host := { sampleHost with tool := .cannotStart .noEntry }
    (∃ e h', rebuild ⟨sampleConfig, none⟩ h = ((.error e, ⟨sampleConfig, none⟩), h') ∧
      Cache.SameNode sampleConfig h h') ∧
    ∃ e h', load ⟨sampleConfig, none⟩ h = ((.error e, ⟨sampleConfig, none⟩), h') ∧
      Cache.bytes? sampleConfig h' = some Record.placeholder ∧ Cache.ReadsSafely sampleConfig h h' := by
  intro h
  have hloses := failure_loses_nothing plainCache_sampleConfig (h := h) fun _ hs => absurd hs List.not_mem_nil
  have hrebuild : (rebuild ⟨sampleConfig, none⟩ h).1.1.toOption = none := by decide +kernel
  have hload : (load ⟨sampleConfig, none⟩ h).1.1.toOption = none := by decide +kernel
  have hbytes : Cache.bytes? sampleConfig (load ⟨sampleConfig, none⟩ h).2 = some Record.placeholder := by decide +kernel
  constructor
  · rcases hr : rebuild ⟨sampleConfig, none⟩ h with ⟨⟨e | l, s'⟩, h'⟩
    · obtain ⟨rfl, hsame⟩ := hloses.1 _ e s' h' rfl hr
      exact ⟨e, h', rfl, hsame⟩
    · rw [hr] at hrebuild
      cases hrebuild
  · rcases hr : load ⟨sampleConfig, none⟩ h with ⟨⟨e | l, s'⟩, h'⟩
    · obtain ⟨rfl, hreads, -⟩ := hloses.2 _ e s' h' rfl rfl hr
      rw [hr] at hbytes
      exact ⟨e, h', rfl, hbytes, hreads⟩
    · rw [hr] at hload
      cases hload

/-- The project with a cache file that is a link through the compiler's directory, which is not there, to a file
that may not be written. -/
def brokenLinkFiles : FileSystem :=
  let t : Timestamp := ⟨10, 0⟩
  let fs := sampleFiles.put [ofText ".owl_cache", ofText "app"] (Node.newDirectory t)
  let fs := fs.put [ofText "load_paths.json", ofText ".owl_cache", ofText "app"]
    ⟨.link (ofText "cc/../real.json"), 0o777, t⟩
  fs.put [ofText "real.json", ofText ".owl_cache", ofText "app"] ⟨.file (ofText "[]"), 0o444, t⟩

/-- A failed load may leave neither what was read before nor the placeholder: it makes the compiler's directory,
so the link leads to a file from then on, and the placeholder cannot be written to that file. -/
theorem failure_uncovers_file :
    ¬∀ (c : Config) (s : Store) (h : Host) (e : Failure) (s' : Store) (h' : Host), c.PlainCache → h.LogsToConsole →
      s.config = c → s.loaded = none → s.load h = ((.error e, s'), h') →
        Cache.bytes? c h' = Cache.bytes? c h ∨ Cache.bytes? c h' = some Record.placeholder := by
  intro hall
  have hload : (load ⟨sampleConfig, none⟩ { sampleHost with files := brokenLinkFiles }).1.1.toOption = none := by
    decide +kernel
  have hbefore : Cache.bytes? sampleConfig { sampleHost with files := brokenLinkFiles } = none := by decide +kernel
  have hafter : Cache.bytes? sampleConfig (load ⟨sampleConfig, none⟩ { sampleHost with files := brokenLinkFiles }).2 =
      some (ofText "[]") := by decide +kernel
  rcases hr : load ⟨sampleConfig, none⟩ { sampleHost with files := brokenLinkFiles } with ⟨⟨e | l, s'⟩, h'⟩
  · rw [hr] at hafter
    rcases hall sampleConfig ⟨sampleConfig, none⟩ { sampleHost with files := brokenLinkFiles } e s' h'
      plainCache_sampleConfig (fun _ hs => absurd hs List.not_mem_nil) rfl rfl hr with hb | hb
    · rw [hbefore, hafter] at hb
      cases hb
    · rw [hafter] at hb
      exact absurd hb (by decide)
  · rw [hr] at hload
    cases hload

end Store

end RequirePath
