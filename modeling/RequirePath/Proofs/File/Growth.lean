import RequirePath.Proofs.File.Leads

/-! What a path leads to after nodes are added and files are written: ways stay. A way also stays if one place
that leads to no directory becomes a file, but then it may end there. -/

namespace RequirePath

/-- A node stays as it is, except that a directory may get another time. -/
def Node.Kept (n n' : Node) : Prop :=
  n' = n ∨ n.isDirectory = true ∧ ∃ t, n' = { n with modified := t }

/-- A node stays of its kind: a file may get other bytes, and the time may change. -/
def Node.Alike (n n' : Node) : Prop :=
  n'.mode = n.mode ∧ (n'.content = n.content ∨ n.isFile = true ∧ n'.isFile = true)

namespace Node

variable {n n' n'' : Node}

theorem kept_refl (n : Node) : n.Kept n := Or.inl rfl

theorem Kept.content_eq (h : n.Kept n') : n'.content = n.content := by
  rcases h with rfl | ⟨-, t, rfl⟩ <;> rfl

theorem Kept.trans (h : n.Kept n') (h' : n'.Kept n'') : n.Kept n'' := by
  rcases h' with rfl | ⟨hd', t', rfl⟩
  · exact h
  · rcases h with rfl | ⟨hd, t, rfl⟩
    · exact Or.inr ⟨hd', t', rfl⟩
    · exact Or.inr ⟨hd, t', rfl⟩

/-- What is no directory stays as it is. -/
theorem Kept.eq (h : n.Kept n') (hd : n.isDirectory = false) : n' = n := by
  rcases h with rfl | ⟨hd', -⟩
  · rfl
  · rw [hd] at hd'
    cases hd'

theorem Kept.alike (h : n.Kept n') : n.Alike n' := by
  rcases h with rfl | ⟨-, t, rfl⟩ <;> exact ⟨rfl, Or.inl rfl⟩

theorem alike_refl (n : Node) : n.Alike n := ⟨rfl, Or.inl rfl⟩

theorem isFile_eq_of_content (h : n'.content = n.content) : n'.isFile = n.isFile := by
  unfold isFile
  rw [h]

theorem Alike.trans (h : n.Alike n') (h' : n'.Alike n'') : n.Alike n'' := by
  refine ⟨h'.1.trans h.1, ?_⟩
  rcases h.2 with hc | ⟨hf, hf'⟩
  · rcases h'.2 with hc' | ⟨hf, hf'⟩
    · exact Or.inl (hc'.trans hc)
    · exact Or.inr ⟨by rw [← isFile_eq_of_content hc, hf], hf'⟩
  · refine Or.inr ⟨hf, ?_⟩
    rcases h'.2 with hc' | ⟨-, hf''⟩
    · rw [isFile_eq_of_content hc', hf']
    · exact hf''

theorem Alike.symm (h : n.Alike n') : n'.Alike n :=
  ⟨h.1.symm, h.2.imp Eq.symm And.symm⟩

theorem isFile_iff : n.isFile = true ↔ ∃ bytes, n.content = .file bytes := by
  unfold isFile
  cases n.content <;> simp

theorem isDirectory_of_isFile (h : n.isFile = true) : n.isDirectory = false := by
  obtain ⟨bytes, hc⟩ := isFile_iff.1 h
  simp [isDirectory, hc]

theorem isLink_of_isFile (h : n.isFile = true) : n.isLink = false := by
  obtain ⟨bytes, hc⟩ := isFile_iff.1 h
  simp [isLink, hc]

theorem isFile_of_isDirectory (h : n.isDirectory = true) : n.isFile = false := by
  rw [isFile, eq_of_beq h]

theorem isFile_of_isLink (h : n.isLink = true) : n.isFile = false := by
  cases hf : n.isFile with
  | false => rfl
  | true => rw [isLink_of_isFile hf] at h; cases h

theorem Alike.isDirectory_eq (h : n.Alike n') : n'.isDirectory = n.isDirectory := by
  rcases h.2 with hc | ⟨hf, hf'⟩
  · unfold isDirectory
    rw [hc]
  · rw [isDirectory_of_isFile hf, isDirectory_of_isFile hf']

theorem Alike.isLink_eq (h : n.Alike n') : n'.isLink = n.isLink := by
  rcases h.2 with hc | ⟨hf, hf'⟩
  · unfold isLink
    rw [hc]
  · rw [isLink_of_isFile hf, isLink_of_isFile hf']

theorem Alike.isFile_eq (h : n.Alike n') : n'.isFile = n.isFile := by
  rcases h.2 with hc | ⟨hf, hf'⟩
  · exact isFile_eq_of_content hc
  · rw [hf, hf']

theorem Alike.target (h : n.Alike n') {target : Pathname} (hc : n.content = .link target) :
    n'.content = .link target := by
  rcases h.2 with he | ⟨hf, -⟩
  · rw [he, hc]
  · simp [isFile, hc] at hf

end Node

namespace FileSystem

variable {fs fs' fs'' : FileSystem} {follow must : Bool} {links : Nat} {here d q place : Location}
variable {name : Filename} {names : List Filename} {p : Place} {n node : Node}

/-- Every node stays as it is, except that directories may get other times. -/
def Keeps (fs fs' : FileSystem) : Prop :=
  ∀ q n, fs.node? q = some n → ∃ n', fs'.node? q = some n' ∧ n.Kept n'

/-- Every node stays of its kind. -/
def Grows (fs fs' : FileSystem) : Prop :=
  ∀ q n, fs.node? q = some n → ∃ n', fs'.node? q = some n' ∧ n.Alike n'

theorem keeps_refl (fs : FileSystem) : Keeps fs fs := fun _ n h => ⟨n, h, n.kept_refl⟩

theorem Keeps.trans (h : Keeps fs fs') (h' : Keeps fs' fs'') : Keeps fs fs'' := by
  intro q n hn
  obtain ⟨n', hn', hk⟩ := h q n hn
  obtain ⟨n'', hn'', hk'⟩ := h' q n' hn'
  exact ⟨n'', hn'', hk.trans hk'⟩

theorem Keeps.grows (h : Keeps fs fs') : Grows fs fs' := by
  intro q n hn
  obtain ⟨n', hn', hk⟩ := h q n hn
  exact ⟨n', hn', hk.alike⟩

theorem grows_refl (fs : FileSystem) : Grows fs fs := (keeps_refl fs).grows

theorem Grows.trans (h : Grows fs fs') (h' : Grows fs' fs'') : Grows fs fs'' := by
  intro q n hn
  obtain ⟨n', hn', hk⟩ := h q n hn
  obtain ⟨n'', hn'', hk'⟩ := h' q n' hn'
  exact ⟨n'', hn'', hk.trans hk'⟩

theorem Grows.node?_eq_none (hg : Grows fs fs') (hn : fs'.node? q = none) : fs.node? q = none := by
  cases hold : fs.node? q with
  | none => rfl
  | some n =>
      obtain ⟨n', hn', -⟩ := hg q n hold
      rw [hn] at hn'
      cases hn'

/-! ### Ways that stay -/

/-- An open directory stays one if its node stays of its kind. -/
theorem IsOpen.of_alike (ho : fs.IsOpen here)
    (h : ∀ n, fs.node? here = some n → n.isDirectory = true → ∃ n', fs'.node? here = some n' ∧ n.Alike n') :
    fs'.IsOpen here := by
  obtain ⟨n, hn, hd⟩ := isDirectoryAt_iff.1 ho.1
  obtain ⟨n', hn', ha⟩ := h n hn hd
  have hs : n.searchable = true := by simpa [isSearchable, hn] using ho.2
  refine ⟨isDirectoryAt_iff.2 ⟨n', hn', by rw [ha.isDirectory_eq, hd]⟩, ?_⟩
  simpa [isSearchable, hn', Node.searchable, ha.1] using hs

theorem IsOpen.grow (ho : fs.IsOpen here) (h : Grows fs fs') : fs'.IsOpen here :=
  ho.of_alike fun n hn _ => h _ n hn

theorem Grows.isDirectoryAt (h : Grows fs fs') (hd : fs.isDirectoryAt here = true) :
    fs'.isDirectoryAt here = true := by
  obtain ⟨n, hn, hdir⟩ := isDirectoryAt_iff.1 hd
  obtain ⟨n', hn', ha⟩ := h _ n hn
  exact isDirectoryAt_iff.2 ⟨n', hn', by rw [ha.isDirectory_eq, hdir]⟩

/-- A way stays. -/
theorem Leads.grow (h : Leads fs follow links must here names (.found d)) (hg : Grows fs fs') :
    Leads fs' follow links must here names (.found d) := by
  generalize hp : Place.found d = p at h
  induction h with
  | arrive hd => exact .arrive fun hm => hg.isDirectoryAt (hd hm)
  | stay ho h ih => exact .stay (ho.grow hg) (ih hp)
  | climb ho h ih => exact .climb (ho.grow hg) (ih hp)
  | miss ho hn hv => cases hp
  | enter ho hn hm hl h ih =>
      obtain ⟨n', hm', ha⟩ := hg _ _ hm
      exact .enter (ho.grow hg) hn hm' (by rw [ha.isLink_eq, hl]) (ih hp)
  | halt hf ho hn hm hl =>
      obtain ⟨n', hm', ha⟩ := hg _ _ hm
      exact .halt hf (ho.grow hg) hn hm' (by rw [ha.isLink_eq, hl])
  | jump ho hn hm hl hs ht h ih =>
      obtain ⟨n', hm', ha⟩ := hg _ _ hm
      exact .jump (ho.grow hg) hn hm' (ha.target hl) hs ht (ih hp)

/-- A way to a vacant place leads to the node that is put there, if that is no link. -/
theorem Leads.fill (h : Leads fs false links must here names (.vacant d name)) (hm : must = false)
    (hg : Grows fs fs') (hn : fs'.node? (name :: d) = some n) (hl : n.isLink = false) :
    Leads fs' false links must here names (.found (name :: d)) := by
  generalize hp : Place.vacant d name = p at h
  induction h with
  | arrive hd => cases hp
  | stay ho h ih => exact .stay (ho.grow hg) (ih hm hp)
  | climb ho h ih => exact .climb (ho.grow hg) (ih hm hp)
  | miss ho hname hv =>
      cases hp
      exact .enter (ho.grow hg) hname hn hl (.arrive fun h => absurd h (by rw [hm]; exact Bool.false_ne_true))
  | enter ho hname hnode hl' h ih =>
      obtain ⟨n', hnode', ha⟩ := hg _ _ hnode
      exact .enter (ho.grow hg) hname hnode' (by rw [ha.isLink_eq, hl']) (ih hm hp)
  | halt hf ho hname hnode hl' => cases hp
  | @jump links must here x rest p node target ho hname hnode hlink hs ht h ih =>
      obtain ⟨n', hnode', ha⟩ := hg _ _ hnode
      refine .jump (ho.grow hg) hname hnode' (ha.target hlink) hs ht (ih ?_ hp)
      cases rest with
      | nil => rcases hs rfl with h | h <;> simp [hm] at h
      | cons y ys => simp [hm]

/-! ### One step back along a way -/

theorem Leads.of_node? (h : Leads fs follow links must here (name :: names) p) (hn : IsEntryName name)
    (hm : fs.node? (name :: here) = some node) (hl : node.isLink = false) :
    Leads fs follow links must (name :: here) names p := by
  cases h with
  | stay => exact absurd rfl hn.1
  | climb => exact absurd rfl hn.2.1
  | miss ho hn hv => rw [hv] at hm; cases hm
  | enter ho hn hm' hl' h => exact h
  | halt hf ho hn hm' hl' =>
      rw [hm, Option.some.injEq] at hm'
      rw [← hm', hl] at hl'
      cases hl'
  | jump ho hn hm' hl' =>
      rw [hm, Option.some.injEq] at hm'
      rw [← hm'] at hl'
      rw [isLink_iff.2 ⟨_, hl'⟩] at hl
      cases hl

theorem Leads.of_link {target : Pathname} (h : Leads fs follow links must here (name :: names) p)
    (hn : IsEntryName name) (hm : fs.node? (name :: here) = some node) (hl : node.content = .link target)
    (hs : names = [] → follow = true ∨ must = true) :
    ∃ links', Leads fs follow links' (must || (names.isEmpty && endsInSlash target)) (linkStart here target)
      (steps target ++ names) p := by
  cases h with
  | stay => exact absurd rfl hn.1
  | climb => exact absurd rfl hn.2.1
  | miss ho hn hv => rw [hv] at hm; cases hm
  | enter ho hn hm' hl' h =>
      rw [hm, Option.some.injEq] at hm'
      rw [← hm', isLink_iff.2 ⟨_, hl⟩] at hl'
      cases hl'
  | halt hf ho hn hm' hl' => rcases hs rfl with h | h <;> simp [hf] at h
  | jump ho hn hm' hl' hs' ht h =>
      rw [hm, Option.some.injEq] at hm'
      rw [← hm', hl, Content.link.injEq] at hl'
      subst hl'
      exact ⟨_, h⟩

theorem Leads.of_dot (h : Leads fs follow links must here (dot :: names) p) :
    Leads fs follow links must here names p := by
  cases h with
  | stay ho h => exact h
  | miss ho hn | enter ho hn | jump ho hn => exact absurd rfl hn.1
  | halt hf ho hn => exact absurd rfl hn.1

theorem Leads.of_dotDot (h : Leads fs follow links must here (dotDot :: names) p) :
    Leads fs follow links must here.tail names p := by
  cases h with
  | climb ho h => exact h
  | miss ho hn | enter ho hn | jump ho hn => exact absurd rfl hn.2.1
  | halt hf ho hn => exact absurd rfl hn.2.1

/-- Once a place that a way led to is no longer vacant and holds no link, the way leads there or nowhere. -/
theorem Leads.eq_of_vacant {links' : Nat} (h : Leads fs follow links must here names (.vacant d name))
    (hg : Grows fs fs') (hn : fs'.node? (name :: d) = some n) (hl : n.isLink = false)
    (h' : Leads fs' follow links' must here names p) : p = .found (name :: d) := by
  generalize hv : Place.vacant d name = v at h
  induction h generalizing links' with
  | arrive hd => cases hv
  | stay ho h ih => exact ih h'.of_dot hv
  | climb ho h ih => exact ih h'.of_dotDot hv
  | miss ho hname hvac =>
      cases hv
      cases h'.of_node? hname hn hl
      rfl
  | enter ho hname hm hl' h ih =>
      obtain ⟨n', hm', ha⟩ := hg _ _ hm
      exact ih (h'.of_node? hname hm' (by rw [ha.isLink_eq, hl'])) hv
  | halt hf ho hname hm hl' => cases hv
  | jump ho hname hm hl' hs ht h ih =>
      obtain ⟨n', hm', ha⟩ := hg _ _ hm
      obtain ⟨k, hk⟩ := h'.of_link hname hm' (ha.target hl') hs
      exact ih hk hv

/-! ### A place that becomes a file -/

/-- One place becomes a file and another one may be cleared; every other node stays of its kind. The first
was no directory and led to none, the second was a file. -/
structure Swaps (fs fs' : FileSystem) (place cleared : Location) : Prop where
  notDirectory : fs.isDirectoryAt place = false
  noWay : ∀ name d node target links q, place = name :: d → fs.node? place = some node →
    node.content = .link target → target ≠ [] →
    Leads fs true links (endsInSlash target) (linkStart d target) (steps target) (.found q) →
    fs.isDirectoryAt q = false
  cleared_isFile : ∀ node, fs.node? cleared = some node → node.isFile = true
  isFile : ∃ node, fs'.node? place = some node ∧ node.isFile = true
  alike : ∀ q n, q ≠ place → q ≠ cleared → fs.node? q = some n → ∃ n', fs'.node? q = some n' ∧ n.Alike n'

variable {cleared : Location}

theorem Swaps.ne_place (hs : Swaps fs fs' place cleared) (hd : fs.isDirectoryAt q = true) : q ≠ place := by
  rintro rfl
  rw [hs.notDirectory] at hd
  cases hd

theorem Swaps.ne_cleared (hs : Swaps fs fs' place cleared) (hn : fs.node? q = some n) (hf : n.isFile = false) :
    q ≠ cleared := by
  rintro rfl
  rw [hs.cleared_isFile n hn] at hf
  cases hf

theorem Swaps.isOpen (hs : Swaps fs fs' place cleared) (ho : fs.IsOpen here) : fs'.IsOpen here := by
  refine ho.of_alike fun n hn hd => ?_
  exact hs.alike _ _ (hs.ne_place ho.1) (hs.ne_cleared hn (Node.isFile_of_isDirectory hd)) hn

theorem Swaps.enter_place (hs : Swaps fs fs' place cleared) (ho : fs'.IsOpen here) (hn : IsEntryName name)
    (hp : name :: here = place) (hm : must ≠ true) : Leads fs' true 0 must here [name] (.found place) := by
  obtain ⟨node, hnode, hfile⟩ := hs.isFile
  subst hp
  exact .enter ho hn hnode (Node.isLink_of_isFile hfile) (.arrive fun h => absurd h hm)

/-- A way to a place that is no directory stays, or ends at the new file. A way to that place with its link
not followed ends there. -/
theorem Leads.swap (h : Leads fs follow links must here names (.found q)) (hs : Swaps fs fs' place cleared)
    (hq : fs.isDirectoryAt q = false) (hne : q = cleared → q = place) (hf : follow = true ∨ q = place) :
    ∃ links' q', links' ≤ links ∧ (q' = q ∨ q' = place) ∧ Leads fs' true links' must here names (.found q') := by
  generalize hp : Place.found q = p at h
  -- the way stays as it was up to the place, and ends there: none goes on through what is no directory
  induction h with
  | @arrive must here hd =>
      cases hp
      refine ⟨0, q, Nat.le_refl _, Or.inl rfl, .arrive fun hm => ?_⟩
      rw [hd hm] at hq
      cases hq
  | stay ho h ih =>
      obtain ⟨k, q', hk, hq', h'⟩ := ih hp
      exact ⟨k, q', hk, hq', .stay (hs.isOpen ho) h'⟩
  | climb ho h ih =>
      obtain ⟨k, q', hk, hq', h'⟩ := ih hp
      exact ⟨k, q', hk, hq', .climb (hs.isOpen ho) h'⟩
  | miss ho hn hv => cases hp
  | @enter links must here name rest p node ho hn hm hl h ih =>
      by_cases hplace : name :: here = place
      · cases rest with
        | cons y ys => exact absurd hplace (hs.ne_place h.isOpen_of_cons.1)
        | nil =>
            cases h with
            | arrive hd =>
                cases hp
                refine ⟨0, place, Nat.zero_le _, Or.inr rfl, hs.enter_place (hs.isOpen ho) hn hplace fun hm => ?_⟩
                rw [hd hm] at hq
                cases hq
      · by_cases hclear : name :: here = cleared
        · cases rest with
          | cons y ys =>
              have hdir := h.isOpen_of_cons.1
              rw [isDirectoryAt_of_node? hm] at hdir
              exact absurd hclear (hs.ne_cleared hm (Node.isFile_of_isDirectory hdir))
          | nil =>
              cases h
              cases hp
              exact absurd (hne hclear) hplace
        · obtain ⟨n', hm', ha⟩ := hs.alike _ _ hplace hclear hm
          obtain ⟨k, q', hk, hq', h'⟩ := ih hp
          exact ⟨k, q', hk, hq', .enter (hs.isOpen ho) hn hm' (by rw [ha.isLink_eq, hl]) h'⟩
  | halt hf' ho hn hm hl =>
      cases hp
      have hplace := hf.resolve_left (by rw [hf']; exact Bool.false_ne_true)
      exact ⟨0, place, Nat.le_refl _, Or.inr rfl, hs.enter_place (hs.isOpen ho) hn hplace nofun⟩
  | @jump links must here name rest p node target ho hn hm hl hs' ht h ih =>
      by_cases hplace : name :: here = place
      · cases rest with
        | nil =>
            refine ⟨0, place, Nat.zero_le _, Or.inr rfl, hs.enter_place (hs.isOpen ho) hn hplace fun hmust => ?_⟩
            subst hp
            have := h.isDirectoryAt_of_must (by rw [hmust, Bool.true_or])
            rw [hq] at this
            cases this
        | cons y ys =>
            obtain ⟨d, k, k', -, hd, hway, -⟩ := h.split (List.cons_ne_nil _ _)
            have := hs.noWay name here node target k d hplace.symm (hplace ▸ hm) hl ht (hway _)
            rw [hd.1] at this
            cases this
      · have hclear := hs.ne_cleared hm (Node.isFile_of_isLink (isLink_iff.2 ⟨_, hl⟩))
        obtain ⟨n', hm', ha⟩ := hs.alike _ _ hplace hclear hm
        obtain ⟨k, q', hk, hq', h'⟩ := ih hp
        exact ⟨k + 1, q', Nat.succ_le_succ hk, hq', .jump (hs.isOpen ho) hn hm' (ha.target hl) (fun _ => Or.inl rfl) ht h'⟩

end FileSystem

end RequirePath
