import RequirePath.Proofs.File.Changes

/-! A path that serves a file, and a file that takes the place of what is under its last name. Afterwards the
path leads to the new file, and other paths that led to files lead to them still, or to the new file. Also what
is read at a path that was written. -/

namespace RequirePath.FileSystem

variable {fs fs' : FileSystem} {cwd q place cleared source : Location} {path other : Pathname} {bytes : List UInt8}
variable {n node : Node} {now : Timestamp} {target : Place}

/-- Something is at a path, and however files are added and written, the path leads to nothing but a file. -/
def ServesFile (fs : FileSystem) (cwd : Location) (path : Pathname) : Prop :=
  (∃ q, fs.resolve cwd false path = .ok (.found q)) ∧
    ∀ fs', Grows fs fs' → ∀ links q,
      Leads fs' true links (endsInSlash path) (linkStart cwd path) (steps path) (.found q) →
        ∃ n, fs'.node? q = some n ∧ n.isFile = true

theorem ServesFile.grow (h : ServesFile fs cwd path) (hg : Grows fs fs') : ServesFile fs' cwd path := by
  obtain ⟨⟨q, hq⟩, hf⟩ := h
  exact ⟨⟨q, resolve_grow hg hq⟩, fun fs'' hg' => hf fs'' (hg.trans hg')⟩

theorem servesFile_of_found (h : fs.resolve cwd true path = .ok (.found q)) (hn : fs.node? q = some n)
    (hf : n.isFile = true) : ServesFile fs cwd path := by
  refine ⟨resolve_unfollow h, fun fs' hg links q' hway => ?_⟩
  obtain ⟨-, -, k, -, hway'⟩ := resolve_eq_ok_iff.1 h
  cases (hway'.grow hg).unique hway
  obtain ⟨n', hn', ha⟩ := hg _ _ hn
  exact ⟨n', hn', by rw [ha.isFile_eq, hf]⟩

/-- A path that a file was written to serves it. -/
theorem servesFile_of_write (h : fs.write cwd path bytes now = .ok fs') : ServesFile fs' cwd path := by
  rcases write_ok h with ⟨d, name, hv, hslash, ha⟩ | ⟨place, node, hp, hw⟩
  · have hlink : (Node.newFile bytes now).isLink = false := rfl
    obtain ⟨he, hlen, k, hk, hway⟩ := resolve_eq_ok_iff.1 hv
    refine ⟨?_, fun fs'' hg links q hway' => ?_⟩
    · rw [hslash] at hway
      rcases hway.unfollow with hway' | ⟨-, k₁, k₂, x, e, _, _, hsum, hway', -⟩
      · refine ⟨name :: d, resolve_eq_ok_iff.2 ⟨he, hlen, k, hk, ?_⟩⟩
        rw [hslash]
        exact hway'.fill rfl ha.keeps.grows ha.node?_new hlink
      · refine ⟨x :: e, resolve_eq_ok_iff.2 ⟨he, hlen, k₁, by omega, ?_⟩⟩
        rw [hslash]
        exact hway'.grow ha.keeps.grows
    · obtain ⟨n, hn, halike⟩ := hg _ _ ha.node?_new
      have hq := hway.eq_of_vacant (ha.keeps.grows.trans hg) hn (by rw [halike.isLink_eq, hlink]) hway'
      cases hq
      exact ⟨n, hn, by rw [halike.isFile_eq]; rfl⟩
  · exact servesFile_of_found (resolve_grow hw.grows hp) (by rw [hw.node?_eq, if_pos rfl]) rfl

/-- A file that is moved to a path that serves a file swaps the two. -/
theorem ServesFile.swaps (hs : ServesFile fs cwd path) (ht : fs.resolve cwd false path = .ok target)
    (hsteps : steps path ≠ []) (hm : Moves fs fs' source target.location node) (hf : node.isFile = true) :
    target = .found target.location ∧ Swaps fs fs' target.location source := by
  obtain ⟨⟨place, hplace⟩, hfile⟩ := hs
  rw [hplace, Except.ok.injEq] at ht
  subst ht
  refine ⟨rfl, hm.notDirectory, ?_, fun n hn => ?_, ⟨node, hm.node?_place, hf⟩, fun q n hq hqs hn => ?_⟩
  · rintro name d node' target links q hp hnode hlink hne hway
    simp only [Place.location] at hp hnode
    subst hp
    obtain ⟨-, -, k, -, hway'⟩ := resolve_eq_ok_iff.1 hplace
    have hmust : endsInSlash path = false := by
      cases hmust : endsInSlash path with
      | false => rfl
      | true =>
          have := hway'.isDirectoryAt_of_must hmust
          rw [isDirectoryAt_of_node? hnode, Node.isDirectory, hlink] at this
          cases this
    have hstart : ∀ n, fs.node? (linkStart cwd path) = some n → n.isLink = false := by
      intro n hn
      obtain ⟨x, xs, hx⟩ := List.exists_cons_of_ne_nil hsteps
      rw [hx] at hway'
      exact isLink_eq_false_of_isDirectoryAt hway'.isOpen_of_cons.1 hn
    obtain ⟨k', hall⟩ := hway'.refollow hmust hstart hnode hlink hne hway
    obtain ⟨n, hn, hnf⟩ := hfile fs (grows_refl fs) k' q hall
    rw [isDirectoryAt_of_node? hn, Node.isDirectory_of_isFile hnf]
  · have := hn.symm.trans hm.found
    cases this
    exact hf
  · obtain ⟨n', hn', hk⟩ := hm.kept q n hq hqs hn
    exact ⟨n', hn', hk.alike⟩

/-- After a swap the path of the swapped place leads to it. -/
theorem Swaps.resolve_place (hs : Swaps fs fs' place cleared) (h : fs.resolve cwd false path = .ok (.found place)) :
    fs'.resolve cwd true path = .ok (.found place) := by
  obtain ⟨he, hlen, k, hk, hway⟩ := resolve_eq_ok_iff.1 h
  obtain ⟨k', q', hk', hq', hway'⟩ := hway.swap hs hs.notDirectory (fun _ => rfl) (Or.inr rfl)
  have hq : q' = place := hq'.elim id id
  subst hq
  exact resolve_eq_ok_iff.2 ⟨he, hlen, k', Nat.le_trans hk' hk, hway'⟩

/-- After a swap a path that led to a file, not the one that moved, leads to it or to the swapped place. -/
theorem Swaps.status (hs : Swaps fs fs' place cleared) (h : fs.resolve cwd true other = .ok (.found q))
    (hn : fs.node? q = some n) (hf : n.isFile = true) (hq : q ≠ cleared) :
    ∃ n', fs'.status cwd other = .ok n' ∧ (n.Alike n' ∨ fs'.node? place = some n') := by
  obtain ⟨he, hlen, k, hk, hway⟩ := resolve_eq_ok_iff.1 h
  have hnd : fs.isDirectoryAt q = false := by rw [isDirectoryAt_of_node? hn, Node.isDirectory_of_isFile hf]
  obtain ⟨k', q', hk', hq', hway'⟩ := hway.swap hs hnd (fun he => absurd he hq) (Or.inl rfl)
  have hres : fs'.resolve cwd true other = .ok (.found q') :=
    resolve_eq_ok_iff.2 ⟨he, hlen, k', Nat.le_trans hk' hk, hway'⟩
  by_cases hp : q' = place
  · obtain ⟨node, hnode, -⟩ := hs.isFile
    exact ⟨node, status_eq_ok_iff.2 ⟨q', hres, by rw [hp, hnode]⟩, Or.inr hnode⟩
  · have hqq : q' = q := hq'.resolve_right hp
    subst hqq
    obtain ⟨n', hn', ha⟩ := hs.alike _ _ hp hq hn
    exact ⟨n', status_eq_ok_iff.2 ⟨q', hres, hn'⟩, Or.inl ha⟩

/-! ### Reading what was moved -/

variable {pl : Place}

/-- A way that goes on from a file ends there. -/
theorem Leads.eq_of_isFile {follow must : Bool} {links : Nat} {names : List Filename}
    (h : Leads fs follow links must place names pl) (hn : fs.node? place = some n) (hf : n.isFile = true) :
    pl = .found place := by
  cases names with
  | nil =>
      cases h
      rfl
  | cons x xs =>
      have hdir := h.isOpen_of_cons.1
      rw [isDirectoryAt_of_node? hn, Node.isDirectory_of_isFile hf] at hdir
      cases hdir

/-- Names that led to the place that a file was moved to lead to the file, or nowhere. -/
theorem Leads.eq_of_moves {must : Bool} {links links' : Nat} {here : Location} {names : List Filename}
    (h : Leads fs false links must here names target) (hm : Moves fs fs' source target.location node)
    (hf : node.isFile = true) (h' : Leads fs' true links' must here names (.found q)) : q = target.location := by
  -- the way is the same up to the place, as a way through the place or the source would go on from a file
  have hend : ∀ {x : Filename} {d : Location} {must : Bool} {links : Nat} {rest : List Filename}, IsEntryName x →
      x :: d = target.location → Leads fs' true links must d (x :: rest) (.found q) → q = target.location := by
    intro x d must links rest hname hplace hway
    have hn := hm.node?_place
    rw [← hplace] at hn ⊢
    exact FileSystem.Place.found.inj ((hway.of_node? hname hn (Node.isLink_of_isFile hf)).eq_of_isFile hn hf)
  induction h generalizing links' with
  | arrive hd =>
      cases h'
      rfl
  | stay ho h ih => exact ih hm h'.of_dot hend
  | climb ho h ih => exact ih hm h'.of_dotDot hend
  | miss ho hname hv => exact hend hname rfl h'
  | halt _ ho hname hnode hl => exact hend hname rfl h'
  | @enter links must here name rest target n ho hname hnode hl h ih =>
      by_cases hplace : name :: here = target.location
      · exact hend hname hplace h'
      · have hsource : name :: here ≠ source := by
          rintro rfl
          have := h.eq_of_isFile hnode (by
            have := hm.found.symm.trans hnode
            cases this
            exact hf)
          rw [this] at hplace
          exact hplace rfl
        obtain ⟨n', hn', hkept⟩ := hm.kept _ _ hplace hsource hnode
        exact ih hm (h'.of_node? hname hn' (by rw [hkept.alike.isLink_eq, hl])) hend
  | @jump links must here name rest target n link ho hname hnode hl hs ht h ih =>
      by_cases hplace : name :: here = target.location
      · exact hend hname hplace h'
      · have hsource : name :: here ≠ source := by
          rintro rfl
          have := hm.found.symm.trans hnode
          cases this
          rw [Node.isFile_of_isLink (isLink_iff.2 ⟨_, hl⟩)] at hf
          cases hf
        obtain ⟨n', hn', hkept⟩ := hm.kept _ _ hplace hsource hnode
        obtain ⟨k, hk⟩ := h'.of_link hname hn' (hkept.alike.target hl) fun _ => Or.inl rfl
        exact ih hm hk hend

/-- What is read at a path that a file was moved to is the file. -/
theorem content_of_moves (ht : fs.resolve cwd false path = .ok target)
    (hm : Moves fs fs' source target.location node) (hf : node.isFile = true) (hs : fs'.status cwd path = .ok n) :
    n = node := by
  obtain ⟨q, hq, hn⟩ := status_eq_ok_iff.1 hs
  obtain ⟨-, -, k, -, hway⟩ := resolve_eq_ok_iff.1 ht
  obtain ⟨-, -, k', -, hway'⟩ := resolve_eq_ok_iff.1 hq
  rw [hway.eq_of_moves hm hf hway', hm.node?_place] at hn
  exact (Option.some.inj hn).symm

/-! ### Reading what was written -/

variable {fs₁ fs₂ : FileSystem} {old : List UInt8}

/-- What a path leads to stays where nodes do. -/
theorem status_of_keeps (hk : Keeps fs fs') (hs : fs.status cwd path = .ok n) :
    ∃ n', fs'.status cwd path = .ok n' ∧ n.Kept n' := by
  obtain ⟨q, hq, hn⟩ := status_eq_ok_iff.1 hs
  obtain ⟨n', hn', hkept⟩ := hk q n hn
  exact ⟨n', status_eq_ok_iff.2 ⟨q, resolve_grow hk.grows hq, hn'⟩, hkept⟩

theorem read_of_keeps (hk : Keeps fs fs') (hr : fs.read cwd path = .ok bytes) : fs'.read cwd path = .ok bytes := by
  obtain ⟨n, hs, hread, hcontent⟩ := read_eq_ok_iff.1 hr
  obtain ⟨n', hs', hkept⟩ := status_of_keeps hk hs
  rw [hkept.eq (Node.isDirectory_of_isFile (Node.isFile_iff.2 ⟨bytes, hcontent⟩))] at hs'
  exact read_eq_ok_iff.2 ⟨n, hs', hread, hcontent⟩

/-- A path that was written leads to the file that was written. -/
theorem content_of_written (hw : fs.write cwd path bytes now = .ok fs₁) (hk : Keeps fs₁ fs₂)
    (hs : fs₂.status cwd path = .ok n) : n.content = .file bytes := by
  obtain ⟨q, hq, hn⟩ := status_eq_ok_iff.1 hs
  have hsame : ∀ {m : Node}, fs₁.node? q = some m → m.content = .file bytes → n.content = .file bytes := by
    intro m hm hc
    obtain ⟨m', hm', hkept⟩ := hk q m hm
    rw [hn] at hm'
    cases hm'
    rw [hkept.content_eq, hc]
  rcases write_ok hw with ⟨d, name, hv, -, ha⟩ | ⟨place, node, hp, hwrites⟩
  · obtain ⟨-, -, k, -, hway⟩ := resolve_eq_ok_iff.1 hv
    obtain ⟨-, -, k', -, hway'⟩ := resolve_eq_ok_iff.1 hq
    obtain ⟨m, hm, halike⟩ := hk.grows _ _ ha.node?_new
    have hlink : m.isLink = false := by rw [halike.isLink_eq]; rfl
    cases hway.eq_of_vacant (ha.keeps.grows.trans hk.grows) hm hlink hway'
    exact hsame ha.node?_new rfl
  · have hfound := (resolve_grow (hwrites.grows.trans hk.grows) hp).symm.trans hq
    cases hfound
    have hnode := hwrites.node?_eq q
    rw [if_pos rfl] at hnode
    exact hsame hnode rfl

theorem eq_of_read_written {got : List UInt8} (hw : fs.write cwd path bytes now = .ok fs₁) (hk : Keeps fs₁ fs₂)
    (hr : fs₂.read cwd path = .ok got) : got = bytes := by
  obtain ⟨n, hs, -, hcontent⟩ := read_eq_ok_iff.1 hr
  rw [content_of_written hw hk hs] at hcontent
  cases hcontent
  rfl

/-- A file that could be read can be read after it is written. -/
theorem read_written (hr : fs.read cwd path = .ok old) (hw : fs.write cwd path bytes now = .ok fs₁)
    (hk : Keeps fs₁ fs₂) : fs₂.read cwd path = .ok bytes := by
  obtain ⟨n, hs, hread, -⟩ := read_eq_ok_iff.1 hr
  obtain ⟨q, hq, hn⟩ := status_eq_ok_iff.1 hs
  have hg := (write_grows hw).trans hk.grows
  obtain ⟨n', hn', halike⟩ := hg q n hn
  have hs' : fs₂.status cwd path = .ok n' := status_eq_ok_iff.2 ⟨q, resolve_grow hg hq, hn'⟩
  refine read_eq_ok_iff.2 ⟨n', hs', ?_, content_of_written hw hk hs'⟩
  rw [Node.readable, halike.1]
  exact hread

end RequirePath.FileSystem
