import RequirePath.File.Action
import RequirePath.Proofs.File.Entry
import RequirePath.Proofs.Host

/-! What the actions on files do to them. The making of a path adds directories only: either nothing changes,
or the path opened no directory before and opens a bare one afterwards, also if it ends halfway. -/

namespace RequirePath

open FileSystem

theorem FileSystem.directory?_eq_true_iff {fs : FileSystem} {cwd : Location} {path : Pathname} :
    fs.directory? cwd path = true ↔
      Pathname.holdsNul path = false ∧ ∃ q, fs.locate cwd true path = .ok q ∧ fs.isDirectoryAt q = true := by
  unfold FileSystem.directory? status
  rw [Bool.and_eq_true, Bool.not_eq_true']
  refine and_congr_right fun _ => ?_
  cases fs.locate cwd true path with
  | error e => simp
  | ok q => cases hn : fs.node? q <;> simp [hn, isDirectoryAt_eq_false, isDirectoryAt_of_node?]

namespace Action

variable {h h' : Host} {r : Except Failure Unit} {p : LexicalPath} {anchor : Anchor} {names outer : List Filename}
variable {R : Host → Host → Prop} {name other : Filename} {e : Failure} {bytes : List UInt8}

/-! ### Questions -/

theorem probe_ok {kind : Node → Bool} {b : Bool} (ha : probe kind p h = (.ok b, h')) :
    h' = h ∧ h.files.probe h.workingDirectory kind p.spelling = .ok b := by
  unfold probe lookOrFail at ha
  obtain ⟨ha, rfl⟩ := Prod.mk.inj ha
  refine ⟨rfl, ?_⟩
  cases hp : h.files.probe h.workingDirectory kind p.spelling with
  | error e => simp [hp, Except.mapError] at ha
  | ok b' => simpa [hp, Except.mapError] using ha

theorem probe_true_iff {kind : Node → Bool} {fs : FileSystem} {cwd : Location} {path : Pathname} :
    fs.probe cwd kind path = .ok true ↔
      Pathname.holdsNul path = false ∧ ∃ n, fs.status cwd path = .ok n ∧ kind n = true := by
  unfold FileSystem.probe
  cases hn : Pathname.holdsNul path with
  | true => simp
  | false =>
      cases hs : fs.status cwd path with
      | error e => cases he : isAbsence e <;> simp [he]
      | ok n => simp

theorem probe_of_status {kind : Node → Bool} {n : Node} (hnul : Pathname.holdsNul p.spelling = false)
    (hs : h.files.status h.workingDirectory p.spelling = .ok n) : probe kind p h = (.ok (kind n), h) := by
  simp only [Action.probe, lookOrFail, FileSystem.probe, hnul, hs, Bool.false_eq_true, if_false, Except.mapError]

theorem modified?_eq (hnul : Pathname.holdsNul p.spelling = false) :
    Action.modified? p h = (.ok (h.files.modified? h.workingDirectory p.spelling), h) := by
  simp [Action.modified?, lookOrFail, hnul]

theorem modified?_ok {t : Option Dyadic} (ha : Action.modified? p h = (.ok t, h')) :
    Pathname.holdsNul p.spelling = false ∧ h' = h ∧ t = h.files.modified? h.workingDirectory p.spelling := by
  obtain ⟨hres, rfl⟩ := Prod.mk.inj ha
  dsimp only at hres
  split_ifs at hres with hnul
  exact ⟨by simpa using hnul, rfl, (Except.ok.inj hres).symm⟩

theorem within_probe (hf : Host.Frame R) (kind : Node → Bool) (p : LexicalPath) : Within R (probe kind p) :=
  within_lookOrFail hf _

/-! ### Directories -/

/-- The end after a refusal changes nothing. -/
theorem settle_eq (ha : settle p e h = (r, h')) : h' = h := by
  unfold settle at ha
  rw [bind_eq] at ha
  rcases hp : probe Node.isDirectory p h with ⟨_ | b, h₁⟩
  · have : h₁ = h := (congrArg Prod.snd hp).symm
    rw [hp] at ha
    rw [← this]
    exact (congrArg Prod.snd ha).symm
  · obtain ⟨rfl, -⟩ := probe_ok hp
    rw [hp] at ha
    cases b <;> exact (congrArg Prod.snd ha).symm

theorem settle_ok (ha : settle p e h = (.ok (), h')) :
    h' = h ∧ h.files.directory? h.workingDirectory p.spelling = true := by
  refine ⟨settle_eq ha, ?_⟩
  unfold settle at ha
  obtain ⟨there, h₁, hprobe, ha⟩ := of_bind_ok ha
  obtain ⟨rfl, hthere⟩ := probe_ok hprobe
  cases there with
  | false => cases ha
  | true =>
      obtain ⟨hnul, m, hm, hd⟩ := probe_true_iff.1 hthere
      obtain ⟨q, hq, hnode⟩ := status_eq_ok_iff.1 hm
      exact directory?_eq_true_iff.2 ⟨hnul, q, locate_eq_ok_iff.2 hq, by rw [isDirectoryAt_of_node? hnode, hd]⟩

theorem makeDirectory_eq (ha : makeDirectory p h = (r, h')) :
    h' = h ∧ (∃ e, r = .error e) ∨
      ∃ fs, h.files.makeDirectory h.workingDirectory p.spelling h.now = .ok fs ∧ h' = { h with files := fs } ∧ r = .ok () := by
  rcases r with e | u
  · exact Or.inl ⟨changeFiles_error ha, e, rfl⟩
  · obtain ⟨-, fs, hfs, rfl⟩ := changeFiles_ok ha
    exact Or.inr ⟨fs, hfs, rfl, rfl⟩

theorem attempt_eq {α : Type} {act : Action α} {r₁ : Except Failure α} (ha : act h = (r₁, h')) :
    attempt act h = (.ok r₁, h') := by
  rw [attempt, ha]

/-- The making of one directory changes nothing, or makes it. -/
theorem ensureDirectory_eq (ha : ensureDirectory p h = (r, h')) :
    h' = h ∨ ∃ fs, h.files.makeDirectory h.workingDirectory p.spelling h.now = .ok fs ∧ h' = { h with files := fs } := by
  unfold ensureDirectory at ha
  rcases hm : makeDirectory p h with ⟨r₁, h₁⟩
  rw [bind_of_ok (attempt_eq hm)] at ha
  rcases makeDirectory_eq hm with ⟨rfl, e, rfl⟩ | ⟨fs, hfs, rfl, rfl⟩
  · refine Or.inl ?_
    cases e with
    | system errno subject => cases errno <;> first | exact settle_eq ha | exact (congrArg Prod.snd ha).symm
    | _ => exact (congrArg Prod.snd ha).symm
  · exact Or.inr ⟨fs, hfs, (congrArg Prod.snd ha).symm⟩

theorem ensureOuter_eq (ha : (ensureDirectories anchor outer >>= fun _ => ensureDirectory p) h = (r, h')) :
    ∃ r₁ h₁, ensureDirectories anchor outer h = (r₁, h₁) ∧
      (h' = h₁ ∨ ∃ fs, h₁.files.makeDirectory h₁.workingDirectory p.spelling h₁.now = .ok fs ∧
        h' = { h₁ with files := fs }) := by
  rcases bind_cases ha with ⟨e, ho, -⟩ | ⟨u, h₁, ho, hlast⟩
  · exact ⟨_, h', ho, Or.inl rfl⟩
  · exact ⟨_, h₁, ho, ensureDirectory_eq hlast⟩

/-- The making of a path changes nothing, or makes its directory, or starts with what the directory lies in. -/
theorem ensureDirectories_cons_eq (ha : ensureDirectories anchor (name :: outer) h = (r, h')) :
    h' = h ∨
    (∃ fs, h.files.makeDirectory h.workingDirectory (LexicalPath.spelling ⟨anchor, (name :: outer).reverse⟩) h.now =
      .ok fs ∧ h' = { h with files := fs }) ∨
    ∃ r₁ h₁, ensureDirectories anchor outer h = (r₁, h₁) ∧
      (h' = h₁ ∨ ∃ fs, h₁.files.makeDirectory h₁.workingDirectory
        (LexicalPath.spelling ⟨anchor, (name :: outer).reverse⟩) h₁.now = .ok fs ∧ h' = { h₁ with files := fs }) := by
  rw [ensureDirectories] at ha
  rcases hm : makeDirectory ⟨anchor, (name :: outer).reverse⟩ h with ⟨r₁, h₁⟩
  replace ha := (bind_of_ok (attempt_eq hm)).symm.trans ha
  rcases makeDirectory_eq hm with ⟨rfl, e, rfl⟩ | ⟨fs, hfs, rfl, rfl⟩
  · cases e with
    | system errno subject =>
        cases errno <;> first | exact Or.inl (settle_eq ha) | exact Or.inr (Or.inr (ensureOuter_eq ha))
    | _ => exact Or.inl (congrArg Prod.snd ha).symm
  · exact Or.inr (Or.inl ⟨fs, hfs, (congrArg Prod.snd ha).symm⟩)

/-- What every directory that is made on the way keeps, the making of a path keeps. -/
theorem ensureDirectories_files {F : FileSystem → FileSystem → Prop} (hr : ∀ fs, F fs fs)
    (ht : ∀ {a b c}, F a b → F b c → F a c)
    (hs : ∀ fs fs' inner, inner <:+ names →
      fs.makeDirectory h.workingDirectory (LexicalPath.spelling ⟨anchor, inner.reverse⟩) h.now = .ok fs' → F fs fs')
    (ha : ensureDirectories anchor names h = (r, h')) : h' = { h with files := h'.files } ∧ F h.files h'.files := by
  induction names generalizing r h' with
  | nil =>
      rcases ensureDirectory_eq ha with rfl | ⟨fs, hfs, rfl⟩
      · exact ⟨rfl, hr _⟩
      · exact ⟨rfl, hs _ _ [] (List.suffix_refl _) hfs⟩
  | cons name outer ih =>
      rcases ensureDirectories_cons_eq ha with rfl | ⟨fs, hfs, rfl⟩ | ⟨r₁, h₁, ho, hlast⟩
      · exact ⟨rfl, hr _⟩
      · exact ⟨rfl, hs _ _ _ (List.suffix_refl _) hfs⟩
      · obtain ⟨hsame, hf⟩ := ih (fun fs fs' inner hi => hs fs fs' inner (hi.trans (List.suffix_cons _ _))) ho
        rcases hlast with rfl | ⟨fs, hfs, rfl⟩
        · exact ⟨hsame, hf⟩
        · have hnow : h₁.now = h.now := by rw [hsame]
          have hcwd : h₁.workingDirectory = h.workingDirectory := by rw [hsame]
          rw [hnow, hcwd] at hfs
          refine ⟨?_, ht hf (hs _ _ _ (List.suffix_refl _) hfs)⟩
          rw [hsame]

theorem makePath_keeps (ha : makePath p h = (r, h')) :
    h' = { h with files := h'.files } ∧ Keeps h.files h'.files := by
  refine ensureDirectories_files keeps_refl Keeps.trans (fun fs fs' inner _ hfs => ?_) ha
  obtain ⟨parent, name, -, hadd⟩ := makeDirectory_ok hfs
  exact hadd.keeps

/-- What is made on the way are directories. -/
theorem makePath_new (ha : makePath p h = (r, h')) {q : Location} {n : Node} (hn : h'.files.node? q = some n) (hd : n.isDirectory = false) :
    h.files.node? q = some n := by
  have hall := (ensureDirectories_files (F := fun fs fs' => ∀ q n, fs'.node? q = some n → n.isDirectory = false →
      fs.node? q = some n) (fun _ _ _ h _ => h) (fun a b q n h hd => a q n (b q n h hd) hd)
    (fun fs fs' inner _ hfs q n hn hd => ?_) ha).2
  · exact hall q n hn hd
  · obtain ⟨parent, name, -, hadd⟩ := makeDirectory_ok hfs
    rcases hadd.of_node? hn with ⟨-, rfl⟩ | ⟨m, hm, hk⟩
    · cases hd
    · rw [hk.eq (by rw [← hk.alike.isDirectory_eq, hd]), hm]

/-- What is made on the way is no file. -/
theorem makePath_files (ha : makePath p h = (r, h')) {q : Location} {n : Node} (hn : h'.files.node? q = some n)
    (hf : n.isFile = true) : h.files.node? q = some n :=
  makePath_new ha hn (Node.isDirectory_of_isFile hf)

/-- A directory that is there is not made again. -/
theorem makePath_of_directory? (hd : h.files.directory? h.workingDirectory p.spelling = true) :
    makePath p h = (.ok (), h) := by
  obtain ⟨hnul, q, hq, hplace⟩ := directory?_eq_true_iff.1 hd
  obtain ⟨n, hn, hdir⟩ := isDirectoryAt_iff.1 hplace
  rw [locate_eq_ok_iff] at hq
  have hs : h.files.status h.workingDirectory p.spelling = .ok n := status_eq_ok_iff.2 ⟨q, hq, hn⟩
  have hmake : attempt (makeDirectory p) h = (.ok (.error (.system .entryExists (Pathname.quoted p.spelling))), h) := by
    obtain ⟨q', hq'⟩ := resolve_unfollow hq
    refine attempt_eq ?_
    simp [makeDirectory, changeFiles, hnul, FileSystem.makeDirectory, hq']
  have hsettle : ∀ e, settle p e h = (.ok (), h) := by
    intro e
    unfold settle
    rw [bind_of_ok (probe_of_status hnul hs), hdir]
    rfl
  obtain ⟨anchor, names⟩ := p
  rw [makePath]
  rcases hnames : names.reverse with _ | ⟨name, outer⟩
  · obtain rfl := List.reverse_eq_nil_iff.1 hnames
    exact (bind_of_ok hmake).trans (hsettle _)
  · obtain rfl : names = (name :: outer).reverse := by rw [← hnames, List.reverse_reverse]
    exact (bind_of_ok hmake).trans (hsettle _)

/-- A directory that is made is where its path leads. -/
theorem makeDirectory_directory? (hp : p.Tidy) (ha : makeDirectory p h = (.ok (), h')) :
    h'.files.directory? h.workingDirectory p.spelling = true := by
  obtain ⟨hnul, fs, hfs, rfl⟩ := changeFiles_ok ha
  obtain ⟨parent, x, hv, hadds⟩ := makeDirectory_ok hfs
  obtain ⟨he, hlen, k, hk, hway⟩ := resolve_eq_ok_iff.1 hv
  have hne : p.names ≠ [] := by
    intro hnil
    rw [hp.steps_spelling, hnil] at hway
    generalize endsInSlash p.spelling = must at hway
    cases hway
  have hmust := hp.endsInSlash_spelling hne
  have hlink : (Node.newDirectory h.now).isLink = false := rfl
  have hfound := (hway.fill hmust hadds.keeps.grows hadds.node?_new hlink).followed hadds.node?_new hlink
  refine directory?_eq_true_iff.2 ⟨hnul, x :: parent, locate_eq_ok_iff.2 (resolve_eq_ok_iff.2 ⟨he, hlen, k, hk, hfound⟩), ?_⟩
  rw [isDirectoryAt_of_node? hadds.node?_new]
  rfl

theorem ensureDirectory_directory? (hp : p.Tidy) (ha : ensureDirectory p h = (.ok (), h')) :
    h'.files.directory? h.workingDirectory p.spelling = true := by
  unfold ensureDirectory at ha
  rcases hm : makeDirectory p h with ⟨r₁, h₁⟩
  rw [bind_of_ok (attempt_eq hm)] at ha
  have hsettle : ∀ {e}, h₁ = h → settle p e h₁ = (.ok (), h') → h'.files.directory? h.workingDirectory p.spelling = true := by
    rintro e rfl hs
    obtain ⟨rfl, hd⟩ := settle_ok hs
    exact hd
  rcases r₁ with e | ⟨⟩
  · have hsame : h₁ = h := changeFiles_error hm
    cases e with
    | system errno subject => cases errno <;> first | exact hsettle hsame ha | cases ha
    | _ => cases ha
  · have hsame : h₁ = h' := congrArg Prod.snd ha
    rw [← hsame]
    exact makeDirectory_directory? hp hm

/-- A path that was made leads to a directory. -/
theorem makePath_directory? (hp : p.Tidy) (ha : makePath p h = (.ok (), h')) :
    h'.files.directory? h.workingDirectory p.spelling = true := by
  obtain ⟨anchor, names⟩ := p
  rw [makePath] at ha
  rcases hnames : names.reverse with _ | ⟨name, outer⟩
  · obtain rfl := List.reverse_eq_nil_iff.1 hnames
    exact ensureDirectory_directory? hp ha
  · obtain rfl : names = (name :: outer).reverse := by rw [← hnames, List.reverse_reverse]
    dsimp only at ha
    rw [List.reverse_reverse, ensureDirectories] at ha
    rcases hm : makeDirectory ⟨anchor, (name :: outer).reverse⟩ h with ⟨r₁, h₁⟩
    replace ha := (bind_of_ok (attempt_eq hm)).symm.trans ha
    rcases r₁ with e | ⟨⟩
    · obtain rfl : h₁ = h := changeFiles_error hm
      have hsettle : ∀ {e}, settle ⟨anchor, (name :: outer).reverse⟩ e h₁ = (.ok (), h') →
          h'.files.directory? h₁.workingDirectory (LexicalPath.spelling ⟨anchor, (name :: outer).reverse⟩) = true := by
        intro e hs
        obtain ⟨rfl, hd⟩ := settle_ok hs
        exact hd
      have houter : (ensureDirectories anchor outer >>= fun _ => ensureDirectory ⟨anchor, (name :: outer).reverse⟩) h₁ =
          (.ok (), h') →
          h'.files.directory? h₁.workingDirectory (LexicalPath.spelling ⟨anchor, (name :: outer).reverse⟩) = true := by
        intro hs
        obtain ⟨⟨⟩, h₂, hfirst, hlast⟩ := of_bind_ok hs
        have hmake : makePath ⟨anchor, outer.reverse⟩ h₁ = (.ok (), h₂) := by
          rw [makePath, List.reverse_reverse]
          exact hfirst
        have hcwd : h₂.workingDirectory = h₁.workingDirectory := by rw [(makePath_keeps hmake).1]
        rw [← hcwd]
        exact ensureDirectory_directory? hp hlast
      cases e with
      | system errno subject => cases errno <;> first | exact hsettle ha | exact houter ha
      | _ => cases ha
    · have hsame : h₁ = h' := congrArg Prod.snd ha
      rw [← hsame]
      exact makeDirectory_directory? hp hm

/-- What the making of the directory and of each one that it lies in keeps, the making of a path keeps. -/
theorem within_makePath_of {F : FileSystem → FileSystem → Prop} (hf : Host.Frame (Host.OnFiles F))
    (hs : ∀ (h : Host) (fs : FileSystem) (inner : List Filename), inner <:+ p.names.reverse →
      h.files.makeDirectory h.workingDirectory (LexicalPath.spelling ⟨p.anchor, inner.reverse⟩) h.now = .ok fs →
        F h.files fs) : Within (Host.OnFiles F) (makePath p) := by
  intro h _
  rcases ha : makePath p h with ⟨r, h'⟩
  obtain ⟨hsame, hr⟩ := ensureDirectories_files (F := F) (fun fs => hf.refl { h with files := fs })
    (fun {a b c} hab hbc => hf.trans (a := { h with files := a }) (b := { h with files := b }) (c := { h with files := c }) hab hbc)
    (fun fs fs' inner hi hfs => hs { h with files := fs } fs' inner hi hfs) ha
  refine ⟨?_, hr⟩
  rw [hsame]
  rfl

theorem within_makePath_of_files (hr : ∀ h fs, R h { h with files := fs }) (p : LexicalPath) : Within R (makePath p) := by
  intro h _
  rcases ha : makePath p h with ⟨r, h'⟩
  rw [(makePath_keeps ha).1]
  exact ⟨rfl, hr h h'.files⟩

/-! ### Trees -/

/-- The removal of a tree removes what is in it and then the directory itself, or ends before. -/
theorem within_removeTree_of (hf : Host.Frame R)
    (hempty : ∀ (h : Host) (place : Location), h.files.locate h.workingDirectory false p.spelling = .ok place →
      R h { h with files := (h.files.emptyDirectory h.now h.files.depthBound place).1 })
    (hlast : ∀ (h : Host) (fs : FileSystem), h.files.removeDirectory h.workingDirectory p.spelling h.now = .ok fs →
      R h { h with files := fs }) : Within R (removeTree p) := by
  intro h hc
  unfold removeTree
  dsimp only
  split
  · exact ⟨rfl, hf.refl _⟩
  · exact ⟨rfl, hf.refl _⟩
  next place node hplace _ =>
  split_ifs
  · exact ⟨rfl, hf.refl _⟩
  · exact ⟨rfl, hf.refl _⟩
  · exact ⟨rfl, hf.refl _⟩
  have hfirst := hempty h place hplace
  rcases he : h.files.emptyDirectory h.now h.files.depthBound place with ⟨fs, _ | ⟨e, name⟩⟩
  · rw [he] at hfirst
    have hremove : Within R (changeFiles p.spelling _) := within_changeFiles hf hlast
    obtain ⟨hs, hr⟩ := hremove { h with files := fs } hc
    have hfiles : h.Continues { h with files := fs } := rfl
    exact ⟨hfiles.trans hs, hf.trans hfirst hr⟩
  · rw [he] at hfirst
    exact ⟨rfl, hfirst⟩

/-! ### Entries beside a path that is made -/

theorem makeDirectory_bareAnew {fs fs' : FileSystem} {cwd : Location} {now : Timestamp} (hp : p.Normal)
    (h : fs.makeDirectory cwd p.spelling now = .ok fs') : BareAnew fs fs' cwd p := by
  obtain ⟨parent, name, hv, ha⟩ := makeDirectory_ok h
  refine ha.bareAnew hv (LexicalPath.endsInSlash_spelling hp fun hnil => ?_)
  obtain ⟨-, -, k, -, hway⟩ := resolve_eq_ok_iff.1 hv
  rw [LexicalPath.steps_spelling hp, hnil] at hway
  generalize endsInSlash p.spelling = must at hway
  cases hway

/-- The making of a path changes nothing, or the path opened nothing before and opens a bare directory, or
nothing, afterwards. -/
theorem ensureDirectories_bareAnew (hp : LexicalPath.Normal ⟨anchor, names.reverse⟩)
    (ha : ensureDirectories anchor names h = (r, h')) :
    h'.files = h.files ∨ BareAnew h.files h'.files h.workingDirectory ⟨anchor, names.reverse⟩ := by
  induction names generalizing r h' with
  | nil =>
      rcases ensureDirectory_eq ha with rfl | ⟨fs, hfs, rfl⟩
      · exact Or.inl rfl
      · exact Or.inr (makeDirectory_bareAnew hp hfs)
  | cons name outer ih =>
      have hp₁ : LexicalPath.Normal ⟨anchor, outer.reverse⟩ :=
        ⟨hp.isAbsolute, fun x hx => hp.plain x (by rw [List.reverse_cons]; exact List.mem_append_left _ hx)⟩
      have hname : IsPlainName name := hp.plain name (by simp)
      have hentry : (⟨anchor, (name :: outer).reverse⟩ : LexicalPath) = LexicalPath.entry ⟨anchor, outer.reverse⟩ name := by
        rw [List.reverse_cons]
        rfl
      rcases ensureDirectories_cons_eq ha with rfl | ⟨fs, hfs, rfl⟩ | ⟨r₁, h₁, ho, hlast⟩
      · exact Or.inl rfl
      · exact Or.inr (makeDirectory_bareAnew hp hfs)
      · have hmake : makePath ⟨anchor, outer.reverse⟩ h = (r₁, h₁) := by
          rw [makePath, List.reverse_reverse]
          exact ho
        obtain ⟨hsame, hkeeps⟩ := makePath_keeps hmake
        rcases hlast with rfl | ⟨fs, hfs, rfl⟩
        · rcases ih hp₁ ho with hf | hb
          · exact Or.inl hf
          · refine Or.inr ?_
            rw [hentry]
            exact hb.entry hp₁ hname
        · have hcwd : h₁.workingDirectory = h.workingDirectory := by rw [hsame]
          rw [hcwd] at hfs
          have hb := makeDirectory_bareAnew hp hfs
          exact Or.inr ⟨fun d hd => hb.1 d (hd.grow hkeeps.grows), hb.2⟩

theorem makePath_sameEntry (hp : p.Normal) (hn : IsPlainName name) (ha : makePath p h = (r, h')) :
    SameEntry h.files h'.files h.workingDirectory (p.entry name).spelling := by
  obtain ⟨anchor, names⟩ := p
  have hp' := hp
  rw [← List.reverse_reverse names] at hp'
  have hb := ensureDirectories_bareAnew hp' ha
  rw [List.reverse_reverse] at hb
  rcases hb with hf | hb
  · rw [hf]
    exact sameEntry_refl _ _
  · exact hb.sameEntry hp hn

/-- The making of a path leaves the other entries of the directory it lies in as they were. -/
theorem makePath_entry_sameEntry (hp : p.Normal) (hn : IsPlainName name) (hother : IsPlainName other)
    (hne : name ≠ other) (ha : makePath (p.entry other) h = (r, h')) :
    SameEntry h.files h'.files h.workingDirectory (p.entry name).spelling := by
  have hmake : ∀ {fs fs' : FileSystem} {now : Timestamp},
      fs.makeDirectory h.workingDirectory (p.entry other).spelling now = .ok fs' →
        SameEntry fs fs' h.workingDirectory (p.entry name).spelling := by
    intro fs fs' now hfs
    obtain ⟨parent, x, hv, hadd⟩ := makeDirectory_ok hfs
    obtain ⟨rfl, hd, -⟩ := resolve_entry_vacant hp hother hv
    exact hadd.sameEntry hp hn hd hne
  rw [makePath, show (p.entry other).names.reverse = other :: p.names.reverse by simp [LexicalPath.entry]] at ha
  have hspell : (⟨(p.entry other).anchor, (other :: p.names.reverse).reverse⟩ : LexicalPath) = p.entry other := by
    simp [LexicalPath.entry]
  rcases ensureDirectories_cons_eq ha with rfl | ⟨fs, hfs, rfl⟩ | ⟨r₁, h₁, ho, hlast⟩
  · exact sameEntry_refl _ _
  · rw [hspell] at hfs
    exact hmake hfs
  · have houter : makePath p h = (r₁, h₁) := ho
    have hfirst := makePath_sameEntry hp hn houter
    rcases hlast with rfl | ⟨fs, hfs, rfl⟩
    · exact hfirst
    · have hcwd : h₁.workingDirectory = h.workingDirectory := by rw [(makePath_keeps houter).1]
      rw [hspell, hcwd] at hfs
      exact hfirst.trans (hmake hfs)

/-! ### What they fail with -/

section

variable {P : Failure → Prop} (hnul : P .nulByte) (hsystem : ∀ e subject, P (.system e subject))
include hsystem

theorem failsOnly_probe (kind : Node → Bool) (p : LexicalPath) : FailsOnly P (probe kind p) := by
  refine failsOnly_lookOrFail fun h e he => ?_
  cases hp : h.files.probe h.workingDirectory kind p.spelling with
  | error errno =>
      rw [hp] at he
      cases he
      exact hsystem _ _
  | ok b =>
      rw [hp] at he
      cases he

theorem failsOnly_settle (p : LexicalPath) (he : P e) : FailsOnly P (settle p e) :=
  failsOnly_bind (failsOnly_probe hsystem _ _) fun _ => failsOnly_ite (failsOnly_pure ()) (failsOnly_fail he)

include hnul

theorem failsOnly_ensureDirectory (p : LexicalPath) : FailsOnly P (ensureDirectory p) := by
  refine failsOnly_attempt (failsOnly_changeFiles hnul hsystem _ _) (fun _ => failsOnly_pure ()) fun e he => ?_
  cases e with
  | system errno subject =>
      cases errno <;> first | exact failsOnly_settle hsystem _ he | exact failsOnly_fail he
  | _ => exact failsOnly_fail he

theorem failsOnly_makePath (p : LexicalPath) : FailsOnly P (makePath p) := by
  unfold makePath
  induction p.names.reverse with
  | nil => exact failsOnly_ensureDirectory hnul hsystem _
  | cons name outer ih =>
      refine failsOnly_attempt (failsOnly_changeFiles hnul hsystem _ _) (fun _ => failsOnly_pure ()) fun e he => ?_
      cases e with
      | system errno subject =>
          cases errno <;> first
            | exact failsOnly_settle hsystem _ he
            | exact failsOnly_bind ih fun _ => failsOnly_ensureDirectory hnul hsystem _
      | _ => exact failsOnly_fail he

end

end Action

end RequirePath
