import RequirePath.File.Query
import RequirePath.Proofs.File.Changes

/-! The node that an absolute path names, whatever the permissions of directories are: the one it leads to in the
same file system with all permissions. A path goes on naming a file of its kind while nodes are added and files are
written, and also when a file is moved to a place that holds no link. -/

namespace RequirePath

/-- A node with all permissions. -/
def Node.unlocked (n : Node) : Node := { n with mode := 0o777 }

theorem Node.Alike.unlocked {n n' : Node} (h : n.Alike n') : n.unlocked.Alike n'.unlocked :=
  ⟨rfl, h.2⟩

namespace FileSystem

variable {fs fs' : FileSystem} {follow must : Bool} {links : Nat} {here q cwd source place : Location}
variable {names : List Filename} {p : Place} {n node : Node} {path : Pathname}

theorem hasDirectory_unlocked (nodes : List (Location × Node)) (q : Location) :
    hasDirectory (nodes.map fun e => (e.1, e.2.unlocked)) q = hasDirectory nodes q := by
  rw [hasDirectory, List.any_map]
  rfl

/-- The same file system with all permissions. -/
def unlocked (fs : FileSystem) : FileSystem where
  nodes := fs.nodes.map fun e => (e.1, e.2.unlocked)
  distinct := by
    rw [List.map_map]
    exact fs.distinct
  root_isDirectory := by
    rw [hasDirectory_unlocked]
    exact fs.root_isDirectory
  parent_isDirectory := by
    intro name parent node hm
    obtain ⟨⟨q, n⟩, hn, he⟩ := List.mem_map.1 hm
    obtain ⟨rfl, -⟩ := Prod.mk.inj he
    rw [hasDirectory_unlocked]
    exact fs.parent_isDirectory name parent n hn

@[simp]
theorem node?_unlocked : fs.unlocked.node? q = (fs.node? q).map Node.unlocked := by
  ext n
  rw [node?_eq_some_iff, Option.map_eq_some_iff]
  simp only [node?_eq_some_iff, unlocked, List.mem_map, Prod.mk.injEq, Prod.exists]
  constructor
  · rintro ⟨_, m, hm, rfl, hn⟩
    exact ⟨m, hm, hn⟩
  · rintro ⟨m, hm, hn⟩
    exact ⟨q, m, hm, rfl, hn⟩

@[simp]
theorem isDirectoryAt_unlocked : fs.unlocked.isDirectoryAt q = fs.isDirectoryAt q :=
  hasDirectory_unlocked _ _

/-- Every directory may be searched. -/
theorem isOpen_unlocked_iff : fs.unlocked.IsOpen q ↔ fs.isDirectoryAt q = true := by
  rw [IsOpen, isDirectoryAt_unlocked]
  refine ⟨And.left, fun h => ⟨h, ?_⟩⟩
  obtain ⟨n, hn, -⟩ := isDirectoryAt_iff.1 h
  simp [isSearchable, hn, Node.searchable, Node.unlocked]

/-- Ways are open without permissions. -/
theorem Leads.unlock (h : Leads fs follow links must here names p) : Leads fs.unlocked follow links must here names p := by
  have hopen : ∀ {d}, fs.IsOpen d → fs.unlocked.IsOpen d := fun ho => isOpen_unlocked_iff.2 ho.1
  have hnode : ∀ {q m}, fs.node? q = some m → fs.unlocked.node? q = some m.unlocked := fun hm => by
    rw [node?_unlocked, hm]
    rfl
  induction h with
  | arrive hd => exact .arrive fun hm => by rw [isDirectoryAt_unlocked, hd hm]
  | stay ho h ih => exact .stay (hopen ho) ih
  | climb ho h ih => exact .climb (hopen ho) ih
  | miss ho hn hv => exact .miss (hopen ho) hn (by rw [node?_unlocked, hv]; rfl)
  | enter ho hn hm hl h ih => exact .enter (hopen ho) hn (hnode hm) hl ih
  | halt hf ho hn hm hl => exact .halt hf (hopen ho) hn (hnode hm) hl
  | jump ho hn hm hl hs ht h ih => exact .jump (hopen ho) hn (hnode hm) hl hs ht ih

theorem Grows.unlocked (h : Grows fs fs') : Grows fs.unlocked fs'.unlocked := by
  intro q n hn
  rw [node?_unlocked] at hn
  obtain ⟨m, hm, rfl⟩ := Option.map_eq_some_iff.1 hn
  obtain ⟨m', hm', ha⟩ := h q m hm
  exact ⟨m'.unlocked, by rw [node?_unlocked, hm']; rfl, ha.unlocked⟩

/-! ### A file that is not there yet -/

/-- A way that does not end at a file does not lead over it, so it stays as long as all other nodes do. -/
theorem Leads.avoid {x : Location} (h : Leads fs follow links must here names (.found q)) (hq : q ≠ x)
    (hx : ∀ n, fs.node? x = some n → n.isFile = true)
    (hg : ∀ q n, q ≠ x → fs.node? q = some n → ∃ n', fs'.node? q = some n' ∧ n.Alike n') :
    Leads fs' follow links must here names (.found q) := by
  have hne : ∀ {d}, fs.isDirectoryAt d = true → d ≠ x := by
    rintro d hd rfl
    obtain ⟨n, hn, hdir⟩ := isDirectoryAt_iff.1 hd
    rw [Node.isDirectory_of_isFile (hx n hn)] at hdir
    cases hdir
  have hopen : ∀ {d}, fs.IsOpen d → fs'.IsOpen d := fun ho => ho.of_alike fun n hn _ => hg _ n (hne ho.1) hn
  generalize hp : Place.found q = p at h
  induction h with
  | arrive hd =>
      cases hp
      refine .arrive fun hm => ?_
      obtain ⟨n, hn, hdir⟩ := isDirectoryAt_iff.1 (hd hm)
      obtain ⟨n', hn', ha⟩ := hg _ n hq hn
      exact isDirectoryAt_iff.2 ⟨n', hn', by rw [ha.isDirectory_eq, hdir]⟩
  | stay ho h ih => exact .stay (hopen ho) (ih hp)
  | climb ho h ih => exact .climb (hopen ho) (ih hp)
  | miss ho hn hv => cases hp
  | @enter links must here name rest p node ho hn hm hl h ih =>
      have hplace : name :: here ≠ x := by
        rintro rfl
        cases rest with
        | nil =>
            cases h
            cases hp
            exact hq rfl
        | cons y ys => exact hne h.isOpen_of_cons.1 rfl
      obtain ⟨n', hm', ha⟩ := hg _ _ hplace hm
      exact .enter (hopen ho) hn hm' (by rw [ha.isLink_eq, hl]) (ih hp)
  | halt hf ho hn hm hl =>
      cases hp
      obtain ⟨n', hm', ha⟩ := hg _ _ hq hm
      exact .halt hf (hopen ho) hn hm' (by rw [ha.isLink_eq, hl])
  | @jump links must here name rest p node target ho hn hm hl hs ht h ih =>
      have hplace : name :: here ≠ x := by
        rintro rfl
        have hlink := Node.isLink_of_isFile (hx _ hm)
        rw [isLink_iff.2 ⟨_, hl⟩] at hlink
        cases hlink
      obtain ⟨n', hm', ha⟩ := hg _ _ hplace hm
      exact .jump (hopen ho) hn hm' (ha.target hl) hs ht (ih hp)

/-- A way in a file system with one more file, to any other node, is a way without it. -/
theorem Adds.leads_of_ne {d : Location} {name : Filename} {now : Timestamp} (ha : Adds fs fs' d name node now)
    (hf : node.isFile = true) (h : Leads fs' follow links must here names (.found q)) (hq : q ≠ name :: d) :
    Leads fs follow links must here names (.found q) := by
  refine h.avoid hq (fun n hn => ?_) fun q n hq hn => ?_
  · have := hn.symm.trans ha.node?_new
    cases this
    exact hf
  · obtain ⟨m, hm, hk⟩ := (ha.of_node? hn).resolve_left fun h => hq h.1
    exact ⟨m, hm, hk.alike.symm⟩

/-! ### Names of nodes -/

/-- The place that an absolute path leads to with all links followed, whatever the permissions of directories and the
length of the path are. -/
def realPlace? (fs : FileSystem) (path : Pathname) : Option Location :=
  match fs.unlocked.resolveFrom true linkLimit (endsInSlash path) [] (steps path) with
  | .ok (.found q) => some q
  | _ => none

theorem realPlace?_eq_some_iff : fs.realPlace? path = some q ↔
    ∃ links, links ≤ linkLimit ∧ Leads fs.unlocked true links (endsInSlash path) [] (steps path) (.found q) := by
  unfold realPlace?
  constructor
  · intro h
    split at h
    · next _ hq =>
        obtain rfl := Option.some.inj h
        exact resolveFrom_eq_ok_iff.1 hq
    · cases h
  · rintro ⟨links, hk, hway⟩
    rw [hway.resolveFrom_eq hk]

theorem realPlace?_of_locate (ha : Pathname.isAbsolute path = true) (h : fs.locate cwd true path = .ok q) :
    fs.realPlace? path = some q := by
  obtain ⟨-, -, links, hk, hway⟩ := resolve_eq_ok_iff.1 (locate_eq_ok_iff.1 h)
  rw [linkStart, if_pos ha] at hway
  exact realPlace?_eq_some_iff.2 ⟨links, hk, hway.unlock⟩

/-- The node that an absolute path names, whatever the permissions of directories and the length of the path are. -/
def named? (fs : FileSystem) (path : Pathname) : Option Node :=
  match fs.unlocked.resolveFrom true linkLimit (endsInSlash path) [] (steps path) with
  | .ok (.found q) => fs.node? q
  | _ => none

theorem named?_of_realPlace? (h : fs.realPlace? path = some q) : fs.named? path = fs.node? q := by
  obtain ⟨links, hk, hway⟩ := realPlace?_eq_some_iff.1 h
  rw [named?, hway.resolveFrom_eq hk]

theorem named?_eq_some_iff : fs.named? path = some n ↔
    ∃ q links, links ≤ linkLimit ∧ Leads fs.unlocked true links (endsInSlash path) [] (steps path) (.found q) ∧
      fs.node? q = some n := by
  unfold named?
  constructor
  · intro h
    split at h
    · next q hq =>
        obtain ⟨links, hk, hway⟩ := resolveFrom_eq_ok_iff.1 hq
        exact ⟨q, links, hk, hway, h⟩
    · cases h
  · rintro ⟨q, links, hk, hway, hn⟩
    rw [hway.resolveFrom_eq hk]
    exact hn

/-- What an absolute path leads to is what it names. -/
theorem named?_of_status (ha : Pathname.isAbsolute path = true) (h : fs.status cwd path = .ok n) :
    fs.named? path = some n := by
  obtain ⟨q, hq, hn⟩ := status_eq_ok_iff.1 h
  rw [named?_of_realPlace? (realPlace?_of_locate ha (locate_eq_ok_iff.2 hq)), hn]

/-- What is found to be there is named. -/
theorem exists_named?_of_exists? (ha : Pathname.isAbsolute path = true) (h : fs.exists? cwd path = true) :
    ∃ n, fs.named? path = some n := by
  rw [exists?, Bool.and_eq_true] at h
  cases hs : fs.status cwd path with
  | ok n => exact ⟨n, named?_of_status ha hs⟩
  | error e =>
      rw [hs] at h
      cases h.2

/-- A file that is moved to a place without a link takes the stead of what is there, whatever the permissions are. -/
theorem Moves.swaps_unlocked (h : Moves fs fs' source place node) (hfile : node.isFile = true)
    (hl : ∀ n, fs.node? place = some n → n.isLink = false) : Swaps fs.unlocked fs'.unlocked place source := by
  refine ⟨?_, ?_, ?_, ?_, ?_⟩
  · rw [isDirectoryAt_unlocked, h.notDirectory]
  · rintro name d n target links q - hn hc - -
    rw [node?_unlocked] at hn
    obtain ⟨m, hm, rfl⟩ := Option.map_eq_some_iff.1 hn
    have hlink : m.isLink = true := isLink_iff.2 ⟨target, hc⟩
    rw [hl m hm] at hlink
    cases hlink
  · intro n hn
    rw [node?_unlocked, h.found] at hn
    obtain rfl := Option.some.inj hn
    exact hfile
  · exact ⟨node.unlocked, by rw [node?_unlocked, h.node?_place]; rfl, hfile⟩
  · intro q n hq hs hn
    rw [node?_unlocked] at hn
    obtain ⟨m, hm, rfl⟩ := Option.map_eq_some_iff.1 hn
    obtain ⟨m', hm', hk⟩ := h.kept q m hq hs hm
    exact ⟨m'.unlocked, by rw [node?_unlocked, hm']; rfl, hk.alike.unlocked⟩

/-- A file that a path names, other than the one that is moved, is followed by a file. -/
theorem named?_move (hm : Moves fs fs' source place node) (hfile : node.isFile = true)
    (hl : ∀ n, fs.node? place = some n → n.isLink = false) (hne : q ≠ source) (hk : links ≤ linkLimit)
    (h : Leads fs.unlocked true links (endsInSlash path) [] (steps path) (.found q)) (hn : fs.node? q = some n)
    (hf : n.isFile = true) : ∃ n', fs'.named? path = some n' ∧ n'.isFile = true := by
  have hdir : fs.unlocked.isDirectoryAt q = false := by
    rw [isDirectoryAt_unlocked, isDirectoryAt_of_node? hn, Node.isDirectory_of_isFile hf]
  obtain ⟨links', q', hk', hq', hway⟩ :=
    h.swap (hm.swaps_unlocked hfile hl) hdir (fun hq => absurd hq hne) (Or.inl rfl)
  have hnode : ∃ n', fs'.node? q' = some n' ∧ n'.isFile = true := by
    by_cases hplace : q' = place
    · exact ⟨node, hplace ▸ hm.node?_place, hfile⟩
    · obtain rfl := hq'.resolve_right hplace
      obtain ⟨n', hn', hkept⟩ := hm.kept q' n hplace hne hn
      exact ⟨n', hn', by rw [hkept.alike.isFile_eq, hf]⟩
  obtain ⟨n', hn', hf'⟩ := hnode
  exact ⟨n', named?_eq_some_iff.2 ⟨q', links', Nat.le_trans hk' hk, hway, hn'⟩, hf'⟩

end FileSystem

end RequirePath
