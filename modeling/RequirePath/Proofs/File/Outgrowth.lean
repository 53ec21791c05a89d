import RequirePath.Proofs.File.LinkFree
import RequirePath.Proofs.File.Shape

/-! File systems that have outgrown another one: directories are new, and one file has taken a place. Without links every
path that led somewhere leads there still. A directory that was there has all the names that it had, in their order, and
what else it has now are new directories or the file. -/

namespace RequirePath.FileSystem

variable {fs fs' : FileSystem} {follow must : Bool} {links : Nat} {cwd d q place here : Location} {path : Pathname}
variable {name : Filename} {names : List Filename} {n n' : Node}

/-- The nodes of a file system are still there in another one, but for one place that held no directory and holds a file
now. What else is there are directories. -/
structure Outgrows (fs fs' : FileSystem) (place : Location) : Prop where
  kept : ∀ q n, q ≠ place → fs.node? q = some n → ∃ n', fs'.node? q = some n' ∧ n.Alike n'
  fresh : ∀ q n', q ≠ place → fs.node? q = none → fs'.node? q = some n' → n'.isDirectory = true
  notDirectory : fs.isDirectoryAt place = false
  isFile : ∃ n', fs'.node? place = some n' ∧ n'.isFile = true

namespace Outgrows

variable (h : fs.Outgrows fs' place)
include h

/-! ### Nodes -/

theorem ne_place (hd : fs.isDirectoryAt q = true) : q ≠ place := by
  rintro rfl
  rw [h.notDirectory] at hd
  cases hd

theorem directory (hn : fs.node? q = some n) (hd : n.isDirectory = true) : ∃ n', fs'.node? q = some n' ∧ n.Alike n' :=
  h.kept q n (h.ne_place (isDirectoryAt_iff.2 ⟨n, hn, hd⟩)) hn

theorem isDirectoryAt (hd : fs.isDirectoryAt q = true) : fs'.isDirectoryAt q = true := by
  obtain ⟨n, hn, hdir⟩ := isDirectoryAt_iff.1 hd
  obtain ⟨n', hn', ha⟩ := h.directory hn hdir
  exact isDirectoryAt_iff.2 ⟨n', hn', by rw [ha.isDirectory_eq, hdir]⟩

/-- A directory was there, or nothing was. -/
theorem node?_eq_none (hd : fs'.isDirectoryAt q = true) (hold : fs.isDirectoryAt q = false) : fs.node? q = none := by
  obtain ⟨m, hm, hdir⟩ := isDirectoryAt_iff.1 hd
  cases hn : fs.node? q with
  | none => rfl
  | some n =>
      by_cases hq : q = place
      · obtain ⟨n', hn', hfile⟩ := h.isFile
        rw [hq, hn', Option.some.injEq] at hm
        rw [← hm, Node.isDirectory_of_isFile hfile] at hdir
        cases hdir
      · obtain ⟨n', hn', ha⟩ := h.kept q n hq hn
        rw [hn', Option.some.injEq] at hm
        rw [isDirectoryAt_of_node? hn, ← ha.isDirectory_eq, hm, hdir] at hold
        cases hold

/-- What was there is no link now if it was none. -/
theorem exists_node? (hn : fs.node? q = some n) (hl : n.isLink = false) :
    ∃ n', fs'.node? q = some n' ∧ n'.isLink = false := by
  by_cases hq : q = place
  · obtain ⟨n', hn', hfile⟩ := h.isFile
    exact ⟨n', by rw [hq, hn'], Node.isLink_of_isFile hfile⟩
  · obtain ⟨n', hn', ha⟩ := h.kept q n hq hn
    exact ⟨n', hn', by rw [ha.isLink_eq, hl]⟩

theorem linkFree (hl : fs.LinkFree) : fs'.LinkFree := by
  intro q n' hn'
  cases hn : fs.node? q with
  | some n =>
      obtain ⟨m, hm, hlink⟩ := h.exists_node? hn (hl q n hn)
      rw [hm, Option.some.injEq] at hn'
      rw [← hn', hlink]
  | none =>
      by_cases hq : q = place
      · obtain ⟨m, hm, hfile⟩ := h.isFile
        rw [hq, hm, Option.some.injEq] at hn'
        rw [← hn', Node.isLink_of_isFile hfile]
      · have hdir := h.fresh q n' hq hn hn'
        exact isLink_eq_false_of_isDirectoryAt (isDirectoryAt_iff.2 ⟨n', hn', hdir⟩) hn'

/-! ### Ways -/

theorem isOpen (ho : fs.IsOpen q) : fs'.IsOpen q :=
  ho.of_alike fun _ hn hd => h.directory hn hd

theorem isOpen_iff (hd : fs.isDirectoryAt q = true) : fs'.IsOpen q ↔ fs.IsOpen q := by
  refine ⟨fun ho => ⟨hd, ?_⟩, h.isOpen⟩
  obtain ⟨n, hn, hdir⟩ := isDirectoryAt_iff.1 hd
  obtain ⟨n', hn', ha⟩ := h.directory hn hdir
  have hs : n'.searchable = true := by simpa [isSearchable, hn'] using ho.2
  simpa [isSearchable, hn, Node.searchable, ha.1] using hs

/-- Names that led to a node lead there still. -/
theorem leads (hl : fs.LinkFree) (hway : Leads fs follow links must here names (.found d)) :
    Leads fs' follow links must here names (.found d) := by
  have hlink : ∀ {P : Prop} {q : Location} {n : Node}, fs.node? q = some n → n.isLink = true → P := by
    intro P q n hn hlink
    rw [hl q n hn] at hlink
    cases hlink
  generalize hp : Place.found d = pl at hway
  induction hway with
  | arrive hd => exact .arrive fun hm => h.isDirectoryAt (hd hm)
  | stay ho hway ih => exact .stay (h.isOpen ho) (ih hp)
  | climb ho hway ih => exact .climb (h.isOpen ho) (ih hp)
  | miss ho hn hv => cases hp
  | enter ho hn hm hnode hway ih =>
      obtain ⟨n', hm', hnode'⟩ := h.exists_node? hm hnode
      exact .enter (h.isOpen ho) hn hm' hnode' (ih hp)
  | halt hf ho hn hm hnode => exact hlink hm hnode
  | jump ho hn hm hnode => exact hlink hm (isLink_iff.2 ⟨_, hnode⟩)

theorem resolve (hl : fs.LinkFree) (hway : fs.resolve cwd follow path = .ok (.found d)) :
    fs'.resolve cwd follow path = .ok (.found d) := by
  obtain ⟨he, hlen, k, hk, hleads⟩ := resolve_eq_ok_iff.1 hway
  exact resolve_eq_ok_iff.2 ⟨he, hlen, k, hk, h.leads hl hleads⟩

theorem locate (hl : fs.LinkFree) (hway : fs.locate cwd follow path = .ok d) : fs'.locate cwd follow path = .ok d :=
  locate_eq_ok_iff.2 (h.resolve hl (locate_eq_ok_iff.1 hway))

theorem opensAt {p : LexicalPath} (hl : fs.LinkFree) (hd : fs.OpensAt cwd p d) : fs'.OpensAt cwd p d :=
  ⟨h.resolve hl hd.1, h.isOpen hd.2⟩

theorem directory? (hl : fs.LinkFree) (hd : fs.directory? cwd path = true) : fs'.directory? cwd path = true := by
  rw [directory?_eq_true_iff] at hd ⊢
  obtain ⟨hnul, q, hq, hdir⟩ := hd
  exact ⟨hnul, q, h.locate hl hq, h.isDirectoryAt hdir⟩

/-- A way without double dots to a directory that was there was there. -/
theorem leads_back (hl : fs.LinkFree) (hd : fs.isDirectoryAt d = true) (hup : dotDot ∉ names)
    (hway : Leads fs' follow links must here names (.found d)) :
    here <:+ d ∧ Leads fs follow links must here names (.found d) := by
  have hlink : ∀ {P : Prop} {q : Location} {n : Node}, fs'.node? q = some n → n.isLink = true → P := by
    intro P q n hn hlink
    rw [h.linkFree hl q n hn] at hlink
    cases hlink
  have hopen : ∀ {q}, q <:+ d → fs'.IsOpen q → fs.IsOpen q := fun hq =>
    (h.isOpen_iff (isDirectoryAt_of_suffix hd hq)).1
  generalize hp : Place.found d = pl at hway
  induction hway with
  | arrive =>
      cases hp
      exact ⟨List.suffix_refl _, .arrive fun _ => hd⟩
  | stay ho hway ih =>
      obtain ⟨hbelow, hback⟩ := ih (fun hm => hup (List.mem_cons_of_mem _ hm)) hp
      exact ⟨hbelow, .stay (hopen hbelow ho) hback⟩
  | climb => exact absurd List.mem_cons_self hup
  | miss => cases hp
  | @enter links must here name rest pl n ho hn hm hnode hway ih =>
      obtain ⟨hbelow, hback⟩ := ih (fun hm => hup (List.mem_cons_of_mem _ hm)) hp
      have hhere := (List.suffix_cons name here).trans hbelow
      obtain ⟨m, hold, -⟩ := isDirectoryAt_iff.1 (isDirectoryAt_of_suffix hd hbelow)
      exact ⟨hhere, .enter (hopen hhere ho) hn hold (hl _ m hold) hback⟩
  | halt hf ho hn hm hnode => exact hlink hm hnode
  | jump ho hn hm hnode => exact hlink hm (isLink_iff.2 ⟨_, hnode⟩)

/-- A path without double dots leads to a directory that was there only if it led to it. -/
theorem locate_back (hl : fs.LinkFree) (hup : dotDot ∉ steps path) (hd : fs.isDirectoryAt q = true)
    (hq : fs'.locate cwd follow path = .ok q) : fs.locate cwd follow path = .ok q := by
  obtain ⟨he, hlen, k, hk, hway⟩ := resolve_eq_ok_iff.1 (locate_eq_ok_iff.1 hq)
  exact locate_eq_ok_iff.2 (resolve_eq_ok_iff.2 ⟨he, hlen, k, hk, (h.leads_back hl hd hup hway).2⟩)

/-! ### Names -/

/-- The names that a directory had, among those that it has now. -/
theorem names_filter (q : Location) : (fs'.names q).filter (fun x => (fs.node? (x :: q)).isSome) = fs.names q := by
  refine eq_of_mem_iff ((pairwise_names _ _).filter _) (pairwise_names _ _) ((nodup_names _ _).filter _) (nodup_names _ _)
    fun name => ?_
  rw [List.mem_filter, mem_names_iff, mem_names_iff, Option.isSome_iff_exists]
  refine ⟨fun hname => hname.2, fun ⟨n, hn⟩ => ⟨?_, n, hn⟩⟩
  by_cases hq : name :: q = place
  · obtain ⟨n', hn', -⟩ := h.isFile
    exact ⟨n', by rw [hq, hn']⟩
  · obtain ⟨n', hn', -⟩ := h.kept _ n hq hn
    exact ⟨n', hn'⟩

end Outgrows

/-- A file system outgrows another one if directories are made in it and then a file, which is moved to a place. -/
theorem outgrows_of_moves {fs₁ fs₂ : FileSystem} {now : Timestamp} {node : Node} (hkeeps : Keeps fs fs₁)
    (hnew : ∀ q n, fs₁.node? q = some n → n.isDirectory = false → fs.node? q = some n) (ha : Adds fs₁ fs₂ d name node now)
    (hfile : node.isFile = true) (hm : Moves fs₂ fs' (name :: d) place node) : fs.Outgrows fs' place where
  kept q n hq hn := by
    obtain ⟨n₁, hn₁, hk₁⟩ := hkeeps q n hn
    obtain ⟨n₂, hn₂, hk₂⟩ := ha.keeps q n₁ hn₁
    have hsource : q ≠ name :: d := by
      rintro rfl
      rw [ha.vacant] at hn₁
      cases hn₁
    obtain ⟨n₃, hn₃, hk₃⟩ := hm.kept q n₂ hq hsource hn₂
    exact ⟨n₃, hn₃, (hk₁.alike.trans hk₂.alike).trans hk₃.alike⟩
  fresh q n' hq hnone hn' := by
    have hsource : q ≠ name :: d := by
      rintro rfl
      rw [hm.node?_source hq] at hn'
      cases hn'
    cases hn₂ : fs₂.node? q with
    | none =>
        rw [hm.vacant q hq hn₂] at hn'
        cases hn'
    | some n₂ =>
        obtain ⟨n₃, hn₃, hk₃⟩ := hm.kept q n₂ hq hsource hn₂
        obtain ⟨hnode, -⟩ | ⟨n₁, hn₁, hk₂⟩ := ha.of_node? hn₂
        · exact absurd hnode hsource
        rw [hn', Option.some.injEq] at hn₃
        rw [hn₃, hk₃.alike.isDirectory_eq, hk₂.alike.isDirectory_eq, ← Bool.not_eq_false]
        intro hd
        rw [hnew q n₁ hn₁ hd] at hnone
        cases hnone
  notDirectory := by
    rw [← Bool.not_eq_true]
    intro hd
    have hd₂ := ((hkeeps.trans ha.keeps).grows).isDirectoryAt hd
    rw [hm.notDirectory] at hd₂
    cases hd₂
  isFile := ⟨node, hm.node?_place, hfile⟩

end RequirePath.FileSystem
