import RequirePath.Proofs.File.Shape

/-! File systems that are the same but for the times and bytes of files at known places. Every change that is asked for in
both is refused for one cause or leaves two such file systems again. -/

namespace RequirePath

namespace FileSystem

variable {P : Location → Prop} {fs fs' : FileSystem} {cwd q place : Location} {name : Filename} {path old new : Pathname}
variable {n n' : Node} {bytes : List UInt8} {now : Timestamp}

/-! ### Questions to file systems of one shape -/

theorem SameShape.status_cases (h : SameShape fs fs') (cwd : Location) (path : Pathname) :
    (∃ e, fs.status cwd path = .error e ∧ fs'.status cwd path = .error e) ∨
      ∃ n n', fs.status cwd path = .ok n ∧ fs'.status cwd path = .ok n' ∧ n.Alike n' := by
  unfold status
  rw [h.locate_eq]
  cases fs.locate cwd true path with
  | error e => exact Or.inl ⟨e, rfl, rfl⟩
  | ok q =>
      dsimp only
      rcases h.node?_cases q with ⟨hn, hn'⟩ | ⟨n, n', hn, hn', ha⟩
      · rw [hn, hn']
        exact Or.inl ⟨_, rfl, rfl⟩
      · rw [hn, hn']
        exact Or.inr ⟨n, n', rfl, rfl, ha⟩

theorem SameShape.probe_eq (h : SameShape fs fs') {kind : Node → Bool} (hk : ∀ n n' : Node, n.Alike n' → kind n' = kind n) :
    fs'.probe cwd kind path = fs.probe cwd kind path := by
  unfold probe
  rcases h.status_cases cwd path with ⟨e, hs, hs'⟩ | ⟨n, n', hs, hs', ha⟩
  · rw [hs, hs']
  · rw [hs, hs']
    dsimp only
    rw [hk n n' ha]

theorem SameShape.permits_eq (h : SameShape fs fs') {access : Node → Bool}
    (hk : ∀ n n' : Node, n.Alike n' → access n' = access n) : fs'.permits cwd path access = fs.permits cwd path access := by
  unfold permits
  rcases h.status_cases cwd path with ⟨e, hs, hs'⟩ | ⟨n, n', hs, hs', ha⟩
  · rw [hs, hs']
  · rw [hs, hs']
    exact hk n n' ha

theorem SameShape.mayRemoveAt_eq (h : SameShape fs fs') (q : Location) : fs'.mayRemoveAt q = fs.mayRemoveAt q := by
  rw [mayRemoveAt, mayRemoveAt, h.isWritableAt_eq, h.isSearchable_eq]

theorem SameShape.isBare_eq (h : SameShape fs fs') (q : Location) : fs'.isBare q = fs.isBare q := by
  rw [Bool.eq_iff_iff, isBare_iff, isBare_iff]
  refine forall_congr' fun name => ?_
  rcases h.node?_cases (name :: q) with ⟨hn, hn'⟩ | ⟨n, n', hn, hn', -⟩
  · rw [hn, hn']
  · rw [hn, hn']
    exact ⟨nofun, nofun⟩

theorem SameShape.admits_eq (h : SameShape fs fs') (ha : n.Alike n') : fs'.admits place n' = fs.admits place n := by
  cases place with
  | nil => simp only [admits, h.isBare_eq, ha.isDirectory_eq]
  | cons name parent => simp only [admits, h.isBare_eq, ha.isDirectory_eq, h.isDirectoryAt_eq]

/-! ### Differences at known places -/

/-- The file systems have one shape and are the same but at certain places. -/
structure SameBut (P : Location → Prop) (fs fs' : FileSystem) : Prop extends SameShape fs fs' where
  elsewhere : ∀ q, ¬P q → fs'.node? q = fs.node? q

/-- At a place both have no node, or nodes that are alike, and the same unless they may differ there. -/
def Matches (P : Location → Prop) (fs fs' : FileSystem) (q : Location) : Prop :=
  fs.node? q = none ∧ fs'.node? q = none ∨
    ∃ n n', fs.node? q = some n ∧ fs'.node? q = some n' ∧ n.Alike n' ∧ (¬P q → n' = n)

theorem sameBut_iff : SameBut P fs fs' ↔ ∀ q, Matches P fs fs' q := by
  constructor
  · intro h q
    rcases h.node?_cases q with hnone | ⟨n, n', hn, hn', ha⟩
    · exact Or.inl hnone
    · refine Or.inr ⟨n, n', hn, hn', ha, fun hq => ?_⟩
      have heq := h.elsewhere q hq
      rw [hn, hn'] at heq
      exact Option.some.inj heq
  · intro h
    refine ⟨⟨fun q n hn => ?_, fun q n' hn' => ?_⟩, fun q hq => ?_⟩
    · rcases h q with ⟨hnone, -⟩ | ⟨m, n', hm, hn', ha, -⟩
      · cases hn.symm.trans hnone
      · cases hn.symm.trans hm
        exact ⟨n', hn', ha⟩
    · rcases h q with ⟨-, hnone⟩ | ⟨n, m', hn, hm', ha, -⟩
      · cases hn'.symm.trans hnone
      · cases hn'.symm.trans hm'
        exact ⟨n, hn, ha.symm⟩
    · rcases h q with ⟨hn, hn'⟩ | ⟨n, n', hn, hn', -, heq⟩
      · rw [hn, hn']
      · rw [hn, hn', heq hq]

theorem sameBut_refl (fs : FileSystem) : SameBut P fs fs := by
  refine sameBut_iff.2 fun q => ?_
  rw [Matches]
  cases fs.node? q with
  | none => exact Or.inl ⟨rfl, rfl⟩
  | some n => exact Or.inr ⟨n, n, rfl, rfl, n.alike_refl, fun _ => rfl⟩

theorem SameBut.mono {Q : Location → Prop} (h : SameBut P fs fs') (hq : ∀ q, P q → Q q) : SameBut Q fs fs' :=
  { h with elsewhere := fun q hno => h.elsewhere q fun hp => hno (hq q hp) }

theorem SameBut.status_eq (h : SameBut P fs fs') (hp : ∀ q, fs.resolve cwd true path = .ok (.found q) → ¬P q) :
    fs'.status cwd path = fs.status cwd path := by
  unfold status
  rw [h.locate_eq]
  cases hl : fs.locate cwd true path with
  | error e => rfl
  | ok q =>
      dsimp only
      rw [h.elsewhere q (hp q (locate_eq_ok_iff.1 hl))]

/-! ### The steps of changes -/

theorem SameBut.put (h : SameBut P fs fs') (ha : n.Alike n') (heq : ¬P place → n' = n) :
    SameBut P (fs.put place n) (fs'.put place n') := by
  have hadmits : fs'.admits place n' = fs.admits place n := h.admits_eq ha
  cases hput : fs.admits place n with
  | false =>
      rw [hput] at hadmits
      rw [FileSystem.put, FileSystem.put, dif_neg (Bool.not_eq_true _ ▸ hput), dif_neg (Bool.not_eq_true _ ▸ hadmits)]
      exact h
  | true =>
      rw [hput] at hadmits
      refine sameBut_iff.2 fun q => ?_
      rw [Matches, node?_put hput, node?_put hadmits]
      by_cases hq : q = place
      · rw [if_pos hq, if_pos hq]
        exact Or.inr ⟨n, n', rfl, rfl, ha, fun hp => heq (hq ▸ hp)⟩
      · rw [if_neg hq, if_neg hq]
        exact sameBut_iff.1 h q

theorem SameBut.touch (h : SameBut P fs fs') (place : Location) (now : Timestamp) :
    SameBut P (fs.touch place now) (fs'.touch place now) := by
  refine sameBut_iff.2 fun q => ?_
  rw [Matches, node?_touch, node?_touch]
  split_ifs
  · rcases sameBut_iff.1 h q with ⟨hn, hn'⟩ | ⟨n, n', hn, hn', ha, heq⟩
    · rw [hn, hn']
      exact Or.inl ⟨rfl, rfl⟩
    · rw [hn, hn']
      exact Or.inr ⟨_, _, rfl, rfl, ha, fun hp => by rw [heq hp]⟩
  · exact sameBut_iff.1 h q

theorem SameBut.erase (h : SameBut P fs fs') (place : Location) : SameBut P (fs.erase place) (fs'.erase place) := by
  by_cases hgone : place ≠ [] ∧ fs.isBare place = true
  · have hgone' : place ≠ [] ∧ fs'.isBare place = true := by rwa [h.isBare_eq]
    refine sameBut_iff.2 fun q => ?_
    rw [Matches, node?_erase hgone.1 hgone.2, node?_erase hgone'.1 hgone'.2]
    split_ifs
    · exact Or.inl ⟨rfl, rfl⟩
    · exact sameBut_iff.1 h q
  · have hstays' : ¬(place ≠ [] ∧ fs'.isBare place = true) := by rwa [h.isBare_eq]
    rw [erase_eq_self hgone, erase_eq_self hstays']
    exact h

/-- A node that both get at a vacant place is the same in both. -/
theorem SameBut.put_new (h : SameBut P fs fs') (n : Node) (hv : fs.node? place = none) :
    SameBut (fun q => P q ∧ q ≠ place) (fs.put place n) (fs'.put place n) := by
  have hboth : SameBut P (fs.put place n) (fs'.put place n) := h.put n.alike_refl fun _ => rfl
  refine { hboth with elsewhere := fun q hq => ?_ }
  by_cases hp : P q
  · obtain rfl : q = place := not_not.1 fun hne => hq ⟨hp, hne⟩
    have hadmits : fs'.admits q n = fs.admits q n := h.admits_eq n.alike_refl
    cases hput : fs.admits q n with
    | false =>
        rw [hput] at hadmits
        rw [FileSystem.put, FileSystem.put, dif_neg (Bool.not_eq_true _ ▸ hadmits), dif_neg (Bool.not_eq_true _ ▸ hput), hv]
        rcases h.node?_cases q with ⟨-, hnone⟩ | ⟨m, m', hm, -⟩
        · exact hnone
        · cases hv.symm.trans hm
    | true =>
        rw [hput] at hadmits
        rw [node?_put hput, node?_put hadmits, if_pos rfl, if_pos rfl]
  · exact hboth.elsewhere q hp

/-! ### Changes -/

/-- Two changes end alike: both are refused for one cause, or they leave file systems in a relation. -/
inductive EndAlike (R : FileSystem → FileSystem → Prop) : Except Errno FileSystem → Except Errno FileSystem → Prop
  | refused (e : Errno) : EndAlike R (.error e) (.error e)
  | changed {fs fs' : FileSystem} (h : R fs fs') : EndAlike R (.ok fs) (.ok fs')

theorem EndAlike.mono {R S : FileSystem → FileSystem → Prop} {x y : Except Errno FileSystem} (h : EndAlike R x y)
    (hs : ∀ a b, R a b → S a b) : EndAlike S x y := by
  cases h with
  | refused e => exact .refused e
  | changed h => exact .changed (hs _ _ h)

section

variable (h : SameBut P fs fs')
include h

theorem SameBut.create {parent : Location} (node : Node) (now : Timestamp) (hv : fs.node? (name :: parent) = none) :
    EndAlike (SameBut fun q => P q ∧ q ≠ name :: parent) (fs.create parent name node now)
      (fs'.create parent name node now) := by
  unfold FileSystem.create
  rw [h.isWritableAt_eq]
  split_ifs
  · exact .changed ((h.put_new node hv).touch parent now)
  · exact .refused _

/-- A private file that both make is the same in both. -/
theorem SameBut.createPrivate (cwd : Location) (path : Pathname) (bytes : List UInt8) (now : Timestamp) :
    EndAlike (SameBut fun q => P q ∧ ∀ d name, fs.resolve cwd false path = .ok (.vacant d name) → q ≠ name :: d)
      (fs.createPrivate cwd path bytes now) (fs'.createPrivate cwd path bytes now) := by
  unfold FileSystem.createPrivate
  rw [h.resolve_eq]
  rcases hr : fs.resolve cwd false path with e | place | ⟨parent, name⟩
  · exact .refused e
  · exact .refused _
  · obtain ⟨-, -, k, -, hway⟩ := resolve_eq_ok_iff.1 hr
    refine (h.create _ now hway.of_vacant.2.2).mono fun a b hab => hab.mono fun q hq => ⟨hq.1, ?_⟩
    intro d x heq
    cases heq
    exact hq.2

theorem SameBut.makeDirectory (cwd : Location) (path : Pathname) (now : Timestamp) :
    EndAlike (SameBut P) (fs.makeDirectory cwd path now) (fs'.makeDirectory cwd path now) := by
  unfold FileSystem.makeDirectory
  rw [h.resolve_eq]
  rcases hr : fs.resolve cwd false path with e | place | ⟨parent, name⟩
  · exact .refused e
  · exact .refused _
  · obtain ⟨-, -, k, -, hway⟩ := resolve_eq_ok_iff.1 hr
    exact (h.create _ now hway.of_vacant.2.2).mono fun a b hab => hab.mono fun q hq => hq.1

theorem SameBut.write (cwd : Location) (path : Pathname) (bytes : List UInt8) (now : Timestamp) :
    EndAlike (SameBut P) (fs.write cwd path bytes now) (fs'.write cwd path bytes now) := by
  unfold FileSystem.write writeWith
  rw [h.resolve_eq]
  rcases hr : fs.resolve cwd true path with e | place | ⟨parent, name⟩
  · exact .refused e
  · dsimp only
    rcases h.node?_cases place with ⟨hn, hn'⟩ | ⟨n, n', hn, hn', ha⟩
    · rw [hn, hn']
      exact .refused _
    · rw [hn, hn']
      dsimp only
      rw [ha.isDirectory_eq, Node.writable, Node.writable, ha.1]
      split_ifs
      · exact .refused _
      · exact .refused _
      · -- whatever bytes the files had, they have the same ones now
        have hput : ∀ b : List UInt8, EndAlike (SameBut P)
            (.ok (fs.put place { n with content := .file b, modified := now }))
            (.ok (fs'.put place { n with content := .file b, modified := now })) := fun b =>
          .changed (h.put (Node.alike_refl _) fun _ => rfl)
        rcases ha.2 with hc | ⟨hf, hf'⟩
        · rw [hc]
          cases n.content with
          | file old => exact hput bytes
          | directory => exact .refused _
          | link target => exact .refused _
          | fifo => exact .refused _
        · obtain ⟨old, hc⟩ := Node.isFile_iff.1 hf
          obtain ⟨old', hc'⟩ := Node.isFile_iff.1 hf'
          rw [hc, hc']
          exact hput bytes
  · dsimp only
    obtain ⟨-, -, k, -, hway⟩ := resolve_eq_ok_iff.1 hr
    split_ifs
    · exact .refused _
    · exact (h.create _ now hway.of_vacant.2.2).mono fun a b hab => hab.mono fun q hq => hq.1

theorem SameBut.removeFile (cwd : Location) (path : Pathname) (now : Timestamp) :
    EndAlike (SameBut P) (fs.removeFile cwd path now) (fs'.removeFile cwd path now) := by
  unfold FileSystem.removeFile
  rw [h.locate_eq]
  cases fs.locate cwd false path with
  | error e => exact .refused e
  | ok place =>
      dsimp only
      rw [h.mayRemoveAt_eq, h.isDirectoryAt_eq]
      split_ifs
      · exact .refused _
      · exact .refused _
      · exact .changed ((h.erase place).touch _ now)

/-- A file that is the same in both may be moved to any place. -/
theorem SameBut.rename (now : Timestamp) (hsame : ∀ q, fs.locate cwd false old = .ok q → ¬P q) :
    EndAlike (SameBut P) (fs.rename cwd old new now) (fs'.rename cwd old new now) := by
  rw [rename_eq, rename_eq, h.locate_eq, h.resolve_eq]
  cases hs : fs.locate cwd false old with
  | error e => exact .refused e
  | ok source =>
      dsimp only
      cases fs.resolve cwd false new with
      | error e => exact .refused e
      | ok target =>
          dsimp only
          rw [h.mayRemoveAt_eq, h.mayRemoveAt_eq, h.isDirectoryAt_eq, h.elsewhere source (hsame source hs)]
          split_ifs
          · exact .refused _
          · exact .refused _
          · exact .refused _
          · exact .refused _
          · cases fs.node? source with
            | none => exact .refused _
            | some node =>
                exact .changed ((((h.erase source).put node.alike_refl fun _ => rfl).touch _ now).touch _ now)

end

end FileSystem

end RequirePath
