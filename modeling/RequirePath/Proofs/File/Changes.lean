import RequirePath.File.Change
import RequirePath.File.Tree
import RequirePath.Proofs.File.Growth

/-! What each change of a file system does, read off its success: where its paths lead, what is checked, and
the node at every place afterwards. -/

namespace RequirePath.FileSystem

variable {fs fs' : FileSystem} {follow : Bool} {cwd d q place : Location} {path : Pathname} {bytes : List UInt8}
variable {name : Filename} {p : Place} {n node : Node} {t now : Timestamp}

/-! ### Paths -/

theorem resolve_eq_ok_iff : fs.resolve cwd follow path = .ok p ↔
    path ≠ [] ∧ path.length ≤ pathLimit ∧ ∃ links, links ≤ linkLimit ∧
      Leads fs follow links (endsInSlash path) (linkStart cwd path) (steps path) p := by
  unfold resolve
  rw [← resolveFrom_eq_ok_iff]
  by_cases he : path = []
  · simp [he]
  · by_cases hl : pathLimit < path.length
    · simp [he, hl, Nat.not_le.2 hl]
    · simp [he, hl, Nat.not_lt.1 hl, linkStart]

theorem locate_eq_ok_iff : fs.locate cwd follow path = .ok place ↔ fs.resolve cwd follow path = .ok (.found place) := by
  unfold locate
  split <;> simp_all

theorem status_eq_ok_iff : fs.status cwd path = .ok n ↔
    ∃ q, fs.resolve cwd true path = .ok (.found q) ∧ fs.node? q = some n := by
  simp only [← locate_eq_ok_iff, status]
  cases fs.locate cwd true path with
  | error e => simp
  | ok q => cases hn : fs.node? q <;> simp [hn]

theorem linkStatus_eq_ok_iff : fs.linkStatus cwd path = .ok n ↔
    ∃ q, fs.resolve cwd false path = .ok (.found q) ∧ fs.node? q = some n := by
  simp only [← locate_eq_ok_iff, linkStatus]
  cases fs.locate cwd false path with
  | error e => simp
  | ok q => cases hn : fs.node? q <;> simp [hn]

theorem read_eq_ok_iff : fs.read cwd path = .ok bytes ↔
    ∃ n, fs.status cwd path = .ok n ∧ n.readable = true ∧ n.content = .file bytes := by
  unfold read
  cases fs.status cwd path with
  | error e => simp
  | ok n =>
      cases hr : n.readable with
      | false => simp [hr]
      | true => cases hc : n.content <;> simp [hr, hc]

/-- A way of a path stays. -/
theorem resolve_grow (hg : Grows fs fs') (h : fs.resolve cwd follow path = .ok (.found q)) :
    fs'.resolve cwd follow path = .ok (.found q) := by
  obtain ⟨he, hl, k, hk, hway⟩ := resolve_eq_ok_iff.1 h
  exact resolve_eq_ok_iff.2 ⟨he, hl, k, hk, hway.grow hg⟩

/-- What a path leads to is at the path also if its link is not followed. -/
theorem resolve_unfollow (h : fs.resolve cwd true path = .ok (.found q)) :
    ∃ q', fs.resolve cwd false path = .ok (.found q') := by
  obtain ⟨he, hlen, k, hk, hway⟩ := resolve_eq_ok_iff.1 h
  rcases hway.unfollow with hway' | ⟨hm, k₁, k₂, name, d, _, _, hsum, hway', -⟩
  · exact ⟨q, resolve_eq_ok_iff.2 ⟨he, hlen, k, hk, hway'⟩⟩
  · refine ⟨name :: d, resolve_eq_ok_iff.2 ⟨he, hlen, k₁, by omega, ?_⟩⟩
    rw [hm]
    exact hway'

/-- What is no link at a path is also what the path leads to. -/
theorem status_of_linkStatus (hs : fs.linkStatus cwd path = .ok n) (hl : n.isLink = false) :
    fs.status cwd path = .ok n := by
  obtain ⟨q, hq, hn⟩ := linkStatus_eq_ok_iff.1 hs
  obtain ⟨he, hlen, k, hk, hway⟩ := resolve_eq_ok_iff.1 hq
  exact status_eq_ok_iff.2 ⟨q, resolve_eq_ok_iff.2 ⟨he, hlen, k, hk, hway.followed hn hl⟩, hn⟩

/-! ### One node more -/

/-- A file system has one node more than another one, in an open directory that may be written, whose time is
that of the change. -/
structure Adds (fs fs' : FileSystem) (parent : Location) (name : Filename) (node : Node) (now : Timestamp) : Prop where
  isOpen : fs.IsOpen parent
  isWritableAt : fs.isWritableAt parent = true
  isEntryName : IsEntryName name
  vacant : fs.node? (name :: parent) = none
  node?_eq : ∀ q, fs'.node? q =
    if q = name :: parent then some node
    else if q = parent then (fs.node? q).map ({ · with modified := now }) else fs.node? q

theorem Adds.node?_new (h : Adds fs fs' d name node now) : fs'.node? (name :: d) = some node := by
  rw [h.node?_eq, if_pos rfl]

theorem Adds.node?_of_ne (h : Adds fs fs' d name node now) (hq : q ≠ name :: d) (hd : q ≠ d) :
    fs'.node? q = fs.node? q := by
  rw [h.node?_eq, if_neg hq, if_neg hd]

theorem Adds.keeps (h : Adds fs fs' d name node now) : Keeps fs fs' := by
  intro q n hn
  rw [h.node?_eq]
  by_cases hq : q = name :: d
  · rw [hq, h.vacant] at hn
    cases hn
  · rw [if_neg hq, hn]
    by_cases hd : q = d
    · refine ⟨{ n with modified := now }, by rw [if_pos hd]; rfl, Or.inr ⟨?_, now, rfl⟩⟩
      rw [← isDirectoryAt_of_node? hn, hd]
      exact h.isOpen.1
    · exact ⟨n, by rw [if_neg hd], n.kept_refl⟩

/-- What is new is the one node. -/
theorem Adds.of_node? (h : Adds fs fs' d name node now) (hn : fs'.node? q = some n) :
    q = name :: d ∧ n = node ∨ ∃ m, fs.node? q = some m ∧ m.Kept n := by
  rw [h.node?_eq] at hn
  split_ifs at hn with hq hd
  · exact Or.inl ⟨hq, (Option.some.inj hn).symm⟩
  · obtain ⟨m, hm, rfl⟩ := Option.map_eq_some_iff.1 hn
    refine Or.inr ⟨m, hm, Or.inr ⟨?_, now, rfl⟩⟩
    rw [← isDirectoryAt_of_node? hm, hd]
    exact h.isOpen.1
  · exact Or.inr ⟨n, hn, n.kept_refl⟩

theorem create_ok {parent : Location} (hp : fs.resolve cwd follow path = .ok (.vacant parent name))
    (h : fs.create parent name node now = .ok fs') : Adds fs fs' parent name node now := by
  obtain ⟨-, -, k, -, hway⟩ := resolve_eq_ok_iff.1 hp
  obtain ⟨ho, hn, hv⟩ := hway.of_vacant
  unfold create at h
  split_ifs at h with hw
  cases h
  refine ⟨ho, hw, hn, hv, fun q => ?_⟩
  rw [node?_touch, node?_put (admits_of_vacant ho.1 hv)]
  by_cases hq : q = name :: parent
  · rw [if_pos hq, if_pos hq, if_neg]
    rw [hq]
    exact List.cons_ne_self _ _
  · rw [if_neg hq, if_neg hq]

theorem makeDirectory_ok (h : fs.makeDirectory cwd path now = .ok fs') :
    ∃ parent name, fs.resolve cwd false path = .ok (.vacant parent name) ∧
      Adds fs fs' parent name (Node.newDirectory now) now := by
  unfold makeDirectory at h
  split at h
  · cases h
  · cases h
  · next parent name hp => exact ⟨parent, name, hp, create_ok hp h⟩

theorem createPrivate_ok (h : fs.createPrivate cwd path bytes now = .ok fs') :
    ∃ parent name, fs.resolve cwd false path = .ok (.vacant parent name) ∧
      Adds fs fs' parent name ⟨.file bytes, Node.privateMode, now⟩ now := by
  unfold createPrivate at h
  split at h
  · cases h
  · cases h
  · next parent name hp => exact ⟨parent, name, hp, create_ok hp h⟩

/-! ### Writing -/

/-- A file has got new bytes. -/
structure Writes (fs fs' : FileSystem) (place : Location) (node : Node) (bytes : List UInt8) (now : Timestamp) : Prop where
  found : fs.node? place = some node
  isFile : node.isFile = true
  writable : node.writable = true
  node?_eq : ∀ q, fs'.node? q =
    if q = place then some { node with content := .file bytes, modified := now } else fs.node? q

theorem Writes.grows (h : Writes fs fs' place node bytes now) : Grows fs fs' := by
  intro q n hn
  rw [h.node?_eq]
  by_cases hq : q = place
  · rw [hq, h.found, Option.some.injEq] at hn
    subst hn
    exact ⟨_, if_pos hq, rfl, Or.inr ⟨h.isFile, rfl⟩⟩
  · exact ⟨n, by rw [if_neg hq, hn], n.alike_refl⟩

theorem write_ok (h : fs.write cwd path bytes now = .ok fs') :
    (∃ parent name, fs.resolve cwd true path = .ok (.vacant parent name) ∧ endsInSlash path = false ∧
      Adds fs fs' parent name (Node.newFile bytes now) now) ∨
    ∃ place node, fs.resolve cwd true path = .ok (.found place) ∧ Writes fs fs' place node bytes now := by
  unfold write writeWith at h
  split at h
  · cases h
  · next parent name hp =>
      split_ifs at h with hslash
      exact Or.inl ⟨parent, name, hp, by simpa using hslash, create_ok hp h⟩
  · next place hp =>
      cases hn : fs.node? place with
      | none => simp [hn] at h
      | some node =>
          simp only [hn] at h
          split_ifs at h with hdir hw
          cases hc : node.content with
          | file old =>
              simp only [hc, Except.ok.injEq] at h
              have hfile : node.isFile = true := Node.isFile_iff.2 ⟨old, hc⟩
              refine Or.inr ⟨place, node, hp, hn, hfile, by simpa using hw, fun q => ?_⟩
              rw [← h, node?_put]
              refine admits_of_node? hn (fun hd => absurd hd hdir) ?_
              rintro rfl
              have := isDirectoryAt_root fs
              rw [isDirectoryAt_of_node? hn] at this
              exact absurd this hdir
          | directory => simp [hc] at h
          | link target => simp [hc] at h
          | fifo => simp [hc] at h

theorem write_grows (h : fs.write cwd path bytes now = .ok fs') : Grows fs fs' := by
  rcases write_ok h with ⟨parent, name, -, -, ha⟩ | ⟨place, node, -, hw⟩
  · exact ha.keeps.grows
  · exact hw.grows

/-- A file that a path leads to and that may be written is written. -/
theorem write_of_found (bytes : List UInt8) (now : Timestamp) (hp : fs.resolve cwd true path = .ok (.found place))
    (hn : fs.node? place = some node) (hf : node.isFile = true) (hw : node.writable = true) : ∃ fs', fs.write cwd path bytes now = .ok fs' := by
  obtain ⟨old, hc⟩ := Node.isFile_iff.1 hf
  unfold write writeWith
  simp [hp, hn, Node.isDirectory_of_isFile hf, hw, hc]

/-! ### Removing and moving -/

/-- Nothing is new, and what is left has its content and mode. -/
def Shrinks (fs fs' : FileSystem) : Prop :=
  ∀ q n', fs'.node? q = some n' → ∃ n, fs.node? q = some n ∧ n'.content = n.content ∧ n'.mode = n.mode

theorem shrinks_refl (fs : FileSystem) : Shrinks fs fs := fun _ n h => ⟨n, h, rfl, rfl⟩

theorem Shrinks.trans {fs'' : FileSystem} (h : Shrinks fs fs') (h' : Shrinks fs' fs'') : Shrinks fs fs'' := by
  intro q n'' hn''
  obtain ⟨n', hn', hc', hm'⟩ := h' q n'' hn''
  obtain ⟨n, hn, hc, hm⟩ := h q n' hn'
  exact ⟨n, hn, hc'.trans hc, hm'.trans hm⟩

theorem Shrinks.grows (h : Shrinks fs fs') : Grows fs' fs := by
  intro q n' hn'
  obtain ⟨n, hn, hc, hm⟩ := h q n' hn'
  exact ⟨n, hn, hm.symm, Or.inl hc.symm⟩

theorem shrinks_erase : Shrinks fs (fs.erase place) := by
  by_cases h : place ≠ [] ∧ fs.isBare place = true
  · intro q n hn
    rw [node?_erase h.1 h.2] at hn
    split_ifs at hn
    exact ⟨n, hn, rfl, rfl⟩
  · rw [erase_eq_self h]
    exact shrinks_refl fs

theorem shrinks_touch : Shrinks fs (fs.touch place t) := by
  intro q n hn
  rw [node?_touch] at hn
  split_ifs at hn
  · obtain ⟨m, hm, rfl⟩ := Option.map_eq_some_iff.1 hn
    exact ⟨m, hm, rfl, rfl⟩
  · exact ⟨n, hn, rfl, rfl⟩

theorem removeFile_ok (h : fs.removeFile cwd path now = .ok fs') :
    ∃ place, fs.resolve cwd false path = .ok (.found place) ∧ fs' = (fs.erase place).touch place.tail now := by
  unfold removeFile at h
  split at h
  · cases h
  · next place hp =>
      split_ifs at h
      exact ⟨place, locate_eq_ok_iff.1 hp, (Except.ok.inj h).symm⟩

theorem removeFile_shrinks (h : fs.removeFile cwd path now = .ok fs') : Shrinks fs fs' := by
  obtain ⟨place, -, rfl⟩ := removeFile_ok h
  exact shrinks_erase.trans shrinks_touch

/-- The place of an entry, there or not. -/
def Place.location : Place → Location
  | .found place => place
  | .vacant parent name => name :: parent

/-- A file has moved to a place, in the stead of what was there, which was no directory. -/
structure Moves (fs fs' : FileSystem) (source place : Location) (node : Node) : Prop where
  found : fs.node? source = some node
  notDirectory : fs.isDirectoryAt place = false
  node?_place : fs'.node? place = some node
  node?_source : source ≠ place → fs'.node? source = none
  vacant : ∀ q, q ≠ place → fs.node? q = none → fs'.node? q = none
  kept : ∀ q n, q ≠ place → q ≠ source → fs.node? q = some n → ∃ n', fs'.node? q = some n' ∧ n.Kept n'

theorem isDirectoryAt_erase {d : Location} (hroot : place ≠ []) (hbare : fs.isBare place = true) (hd : d ≠ place) :
    (fs.erase place).isDirectoryAt d = fs.isDirectoryAt d := by
  rw [Bool.eq_iff_iff, isDirectoryAt_iff, isDirectoryAt_iff, node?_erase hroot hbare, if_neg hd]

/-- A place that a name may be moved to lies in a directory. -/
theorem isDirectoryAt_of_location {name : Filename} {rest : List Filename} {links : Nat} {must : Bool} {here : Location}
    (h : Leads fs follow links must here (name :: rest) p) (hd : fs.isDirectoryAt p.location = false) :
    ∃ x d, p.location = x :: d ∧ fs.isDirectoryAt d = true ∧
      (fs.node? (x :: d) = none ∨ ∃ n, fs.node? (x :: d) = some n ∧ n.isDirectory = false) := by
  cases p with
  | vacant d x =>
      obtain ⟨ho, -, hv⟩ := h.of_vacant
      exact ⟨x, d, rfl, ho.1, Or.inl hv⟩
  | found q =>
      obtain ⟨n, hn⟩ := h.exists_node (by obtain ⟨m, hm, -⟩ := isDirectoryAt_iff.1 h.isOpen_of_cons.1; exact ⟨m, hm⟩)
      have hdir : n.isDirectory = false := by rw [← isDirectoryAt_of_node? hn]; exact hd
      cases q with
      | nil =>
          have := isDirectoryAt_root fs
          rw [isDirectoryAt_of_node? hn, hdir] at this
          cases this
      | cons x d => exact ⟨x, d, rfl, isDirectoryAt_parent hn, Or.inr ⟨n, hn, hdir⟩⟩

theorem node?_moved {source : Location} {x : Filename} (hs : fs.node? source = some node) (hf : node.isFile = true)
    (hd : fs.isDirectoryAt d = true)
    (hp : fs.node? (x :: d) = none ∨ ∃ n, fs.node? (x :: d) = some n ∧ n.isDirectory = false) :
    ((fs.erase source).put (x :: d) node).node? q =
      if q = x :: d then some node else if q = source then none else fs.node? q := by
  have hnd : node.isDirectory = false := Node.isDirectory_of_isFile hf
  have hsd : fs.isDirectoryAt source = false := by rw [isDirectoryAt_of_node? hs, hnd]
  have hroot : source ≠ [] := by
    rintro rfl
    rw [isDirectoryAt_root] at hsd
    cases hsd
  have hbare := isBare_of_not_isDirectoryAt hsd
  have hds : d ≠ source := by
    rintro rfl
    rw [hd] at hsd
    cases hsd
  have hdir : (fs.erase source).isDirectoryAt d = true := by rw [isDirectoryAt_erase hroot hbare hds, hd]
  have hadm : (fs.erase source).admits (x :: d) node = true := by
    by_cases he : x :: d = source
    · exact admits_of_vacant hdir (by rw [node?_erase hroot hbare, if_pos he])
    · rcases hp with hv | ⟨n, hn, hdn⟩
      · exact admits_of_vacant hdir (by rw [node?_erase hroot hbare, if_neg he, hv])
      · refine admits_of_node? (n := n) (by rw [node?_erase hroot hbare, if_neg he, hn]) (fun h => ?_) nofun
        rw [hdn] at h
        cases h
  rw [node?_put hadm, node?_erase hroot hbare]

/-- A file is moved with its node; the directories that it leaves and enters get another time. -/
theorem moves_of_node?_moved {source : Location} {x : Filename} (hs : fs.node? source = some node)
    (hf : node.isFile = true) (hnd : fs.isDirectoryAt (x :: d) = false) (hd : fs.isDirectoryAt d = true)
    (hp : fs.node? (x :: d) = none ∨ ∃ n, fs.node? (x :: d) = some n ∧ n.isDirectory = false) :
    Moves fs ((((fs.erase source).put (x :: d) node).touch source.tail now).touch d now) source (x :: d) node := by
  have hst : fs.isDirectoryAt source.tail = true := by
    cases source with
    | nil => exact isDirectoryAt_root fs
    | cons y ys => exact isDirectoryAt_parent hs
  have hne : x :: d ≠ source.tail := by
    intro he
    rw [he, hst] at hnd
    cases hnd
  have hne' : x :: d ≠ d := List.cons_ne_self _ _
  refine ⟨hs, hnd, ?_, fun he => ?_, fun q hq hv => ?_, fun q n hq hqs hn => ?_⟩
  · rw [node?_touch, if_neg hne', node?_touch, if_neg hne, node?_moved hs hf hd hp, if_pos rfl]
  · rw [node?_touch, node?_touch, node?_moved hs hf hd hp, if_neg he, if_pos rfl]
    split_ifs <;> rfl
  · rw [node?_touch, node?_touch, node?_moved hs hf hd hp, if_neg hq, hv, ite_self]
    split_ifs <;> rfl
  · have hmoved := node?_moved (q := q) hs hf hd hp
    rw [if_neg hq, if_neg hqs, hn] at hmoved
    have htouch : ∀ {fs₁ : FileSystem} {e : Location} {m : Node}, fs₁.node? q = some m → n.Kept m →
        fs.isDirectoryAt e = true → ∃ m', (fs₁.touch e now).node? q = some m' ∧ n.Kept m' := by
      intro fs₁ e m hm hk he
      by_cases hqe : q = e
      · refine ⟨{ m with modified := now }, by rw [node?_touch, if_pos hqe, hm]; rfl, hk.trans (Or.inr ⟨?_, now, rfl⟩)⟩
        rw [hk.alike.isDirectory_eq, ← isDirectoryAt_of_node? hn, hqe, he]
      · exact ⟨m, by rw [node?_touch, if_neg hqe, hm], hk⟩
    obtain ⟨m, hm, hk⟩ := htouch hmoved n.kept_refl hst
    exact htouch hm hk hd

theorem rename_eq {old new : Pathname} : fs.rename cwd old new now =
    match fs.locate cwd false old with
    | .error e => .error e
    | .ok source =>
      match fs.resolve cwd false new with
      | .error e => .error e
      | .ok target =>
        if lacksName new then .error .busy
        else if target.location.isSuffixOf source.tail then .error .notEmpty
        else if !fs.mayRemoveAt source || !fs.mayRemoveAt target.location then .error .accessDenied
        else if fs.isDirectoryAt target.location then .error .isDirectory
        else
          match fs.node? source with
          | none => .error .noEntry
          | some node =>
            .ok ((((fs.erase source).put target.location node).touch source.tail now).touch
              target.location.tail now) := rfl

theorem rename_ok {old new : Pathname} (h : fs.rename cwd old new now = .ok fs')
    (hfile : ∀ q n, fs.resolve cwd false old = .ok (.found q) → fs.node? q = some n → n.isFile = true) :
    ∃ source target node, fs.resolve cwd false old = .ok (.found source) ∧
      fs.resolve cwd false new = .ok target ∧ steps new ≠ [] ∧ Moves fs fs' source target.location node := by
  rw [rename_eq] at h
  split at h
  · cases h
  next source hs =>
  rw [locate_eq_ok_iff] at hs
  split at h
  · cases h
  next target ht =>
  split_ifs at h with hname hsuffix hmay hdir
  cases hn : fs.node? source with
  | none => simp [hn] at h
  | some node =>
      have hnode := hfile _ _ hs hn
      simp only [hn, Except.ok.injEq] at h
      obtain ⟨-, -, k, -, hway⟩ := resolve_eq_ok_iff.1 ht
      obtain ⟨y, ys, hsteps⟩ : ∃ y ys, steps new = y :: ys := by
        cases hz : steps new with
        | nil => simp [lacksName, hz] at hname
        | cons y ys => exact ⟨y, ys, rfl⟩
      rw [hsteps] at hway
      have hnd : fs.isDirectoryAt target.location = false := by simpa using hdir
      obtain ⟨x, d, hp, hd, hocc⟩ := isDirectoryAt_of_location hway hnd
      refine ⟨source, target, node, hs, ht, by rw [hsteps]; exact List.cons_ne_nil _ _, ?_⟩
      rw [hp] at hnd h ⊢
      rw [← h]
      exact moves_of_node?_moved hn hnode hnd hd hocc

theorem not_suffix_tail : ¬name :: d <:+ d := by
  intro h
  have := h.length_le
  simp only [List.length_cons] at this
  omega

/-- What a move has passed if it succeeds. -/
theorem rename_passed {old new : Pathname} (h : fs.rename cwd old new now = .ok fs') :
    ∃ source target, fs.resolve cwd false old = .ok (.found source) ∧ fs.resolve cwd false new = .ok target ∧
      lacksName new = false ∧ ¬target.location <:+ source.tail ∧ fs.mayRemoveAt target.location = true := by
  rw [rename_eq] at h
  split at h
  · cases h
  next source hs =>
  split at h
  · cases h
  next target ht =>
  split_ifs at h with hname hsuffix hmay hdir
  refine ⟨source, target, locate_eq_ok_iff.1 hs, ht, by simpa using hname, ?_, ?_⟩
  · rwa [List.isSuffixOf_iff_suffix] at hsuffix
  · simp only [Bool.or_eq_true, Bool.not_eq_true', not_or, Bool.not_eq_false] at hmay
    exact hmay.2

/-- A move succeeds that passes all of it. -/
theorem rename_of_found {old new : Pathname} {source : Location} {target : Place} (now : Timestamp)
    (hs : fs.resolve cwd false old = .ok (.found source)) (hn : fs.node? source = some node)
    (hmay : fs.mayRemoveAt source = true) (ht : fs.resolve cwd false new = .ok target) (hname : lacksName new = false)
    (hsuffix : ¬target.location <:+ source.tail) (hmay' : fs.mayRemoveAt target.location = true)
    (hdir : fs.isDirectoryAt target.location = false) : ∃ fs', fs.rename cwd old new now = .ok fs' := by
  rw [← List.isSuffixOf_iff_suffix, Bool.not_eq_true] at hsuffix
  rw [rename_eq, locate_eq_ok_iff.2 hs, ht]
  simp [hname, hsuffix, hmay, hmay', hdir, hn]

theorem removeDirectory_ok (h : fs.removeDirectory cwd path now = .ok fs') :
    ∃ place, fs.resolve cwd false path = .ok (.found place) ∧ steps path ≠ [] ∧ (steps path).getLast? ≠ some dotDot ∧
      fs.isDirectoryAt place = true ∧ fs.isBare place = true ∧ fs' = (fs.erase place).touch place.tail now := by
  unfold removeDirectory at h
  split at h
  · cases h
  · next place hp =>
      split_ifs at h with hempty hup hmay hdir hbare
      refine ⟨place, locate_eq_ok_iff.1 hp, ?_, hup, by simpa using hdir, by simpa using hbare, (Except.ok.inj h).symm⟩
      simpa using hempty

theorem removeDirectory_shrinks (h : fs.removeDirectory cwd path now = .ok fs') : Shrinks fs fs' := by
  obtain ⟨place, -, -, -, -, -, rfl⟩ := removeDirectory_ok h
  exact shrinks_erase.trans shrinks_touch

theorem removeEntry_shrinks : Shrinks fs (fs.removeEntry d name now).1 := by
  unfold removeEntry
  split_ifs
  · exact shrinks_erase.trans shrinks_touch
  · exact shrinks_refl fs

section

variable {F : FileSystem → FileSystem → Prop} (hr : ∀ fs, F fs fs) (ht : ∀ {a b c}, F a b → F b c → F a c)
include hr ht

theorem removeEach_of {remove : FileSystem → Filename → FileSystem × Option RemovalFault}
    (h : ∀ fs name, F fs (remove fs name).1) (names : List Filename) : F fs (removeEach remove fs names).1 := by
  induction names generalizing fs with
  | nil => exact hr fs
  | cons name names ih =>
      have hstep := h fs name
      rw [removeEach]
      rcases hremove : remove fs name with ⟨fs', _ | fault⟩
      · rw [hremove] at hstep
        exact ht hstep ih
      · rw [hremove] at hstep
        exact hstep

/-- What the removal of each entry below a place keeps, the removal of what is in its directory keeps. -/
theorem emptyDirectory_of (he : ∀ fs e name, d <:+ e → F fs (fs.removeEntry e name now).1) (bound : Nat)
    {e : Location} (hd : d <:+ e) : F fs (fs.emptyDirectory now bound e).1 := by
  induction bound generalizing fs e with
  | zero => exact hr fs
  | succ bound ih =>
      rw [emptyDirectory]
      refine removeEach_of hr ht (fun fs name => ?_) _
      cases fs.node? (name :: e) with
      | none => exact hr fs
      | some node =>
          dsimp only
          split_ifs
          · exact hr fs
          · have hsub : F fs (fs.emptyDirectory now bound (name :: e)).1 := ih (hd.trans (List.suffix_cons _ _))
            rcases hempty : fs.emptyDirectory now bound (name :: e) with ⟨fs', _ | fault⟩
            · rw [hempty] at hsub
              exact ht hsub (he _ _ _ hd)
            · rw [hempty] at hsub
              exact hsub
          · exact he _ _ _ hd

end

theorem emptyDirectory_shrinks (bound : Nat) : Shrinks fs (fs.emptyDirectory now bound d).1 :=
  emptyDirectory_of shrinks_refl Shrinks.trans (fun _ _ _ _ => removeEntry_shrinks) bound (List.suffix_refl d)

end RequirePath.FileSystem
