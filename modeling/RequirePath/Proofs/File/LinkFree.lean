import RequirePath.Proofs.File.Actions
import RequirePath.Proofs.File.Temporary

/-! File systems without links. There a path without dots leads to the place that it spells, wherever it leads,
and no change that the program makes brings a link in. -/

namespace RequirePath

/-- The place that a path spells, if no link is on its way. -/
def LexicalPath.location (p : LexicalPath) : Location := p.names.reverse

theorem LexicalPath.location_entry (p : LexicalPath) (name : Filename) :
    (p.entry name).location = name :: p.location := by
  simp [location, entry]

namespace FileSystem

variable {fs fs' : FileSystem} {follow must : Bool} {links : Nat} {cwd d q place source here : Location}
variable {names : List Filename} {name : Filename} {p : LexicalPath} {pl : Place} {n node : Node} {now : Timestamp}
variable {bytes : List UInt8} {path : Pathname}

/-- No node is a link. -/
def LinkFree (fs : FileSystem) : Prop := ∀ q n, fs.node? q = some n → n.isLink = false

/-- No link lies on the way to a place or at it. -/
def Straight (fs : FileSystem) (place : Location) : Prop := ∀ q n, q <:+ place → fs.node? q = some n → n.isLink = false

theorem LinkFree.straight (hl : fs.LinkFree) (place : Location) : fs.Straight place := fun q n _ => hl q n

theorem Straight.mono (hl : fs.Straight place) (hq : q <:+ place) : fs.Straight q :=
  fun q' n hq' => hl q' n (hq'.trans hq)

instance (fs : FileSystem) : Decidable fs.LinkFree :=
  decidable_of_iff (∀ e ∈ fs.nodes, e.2.isLink = false)
    ⟨fun h q n hn => h (q, n) (node?_eq_some_iff.1 hn), fun h e he => h e.1 e.2 (node?_eq_some_iff.2 he)⟩

/-- The bytes of the file at a place. -/
def bytesAt (fs : FileSystem) (place : Location) : Option (List UInt8) :=
  match fs.node? place with
  | some ⟨.file bytes, _, _⟩ => some bytes
  | _ => none

theorem bytesAt_eq_some_iff : fs.bytesAt place = some bytes ↔
    ∃ n, fs.node? place = some n ∧ n.content = .file bytes := by
  unfold bytesAt
  cases hn : fs.node? place with
  | none => simp
  | some n =>
      obtain ⟨content, mode, modified⟩ := n
      cases content <;> simp

/-! ### Paths -/

/-- Names that are no dots lead to the place that they spell, if no link is on the way. -/
theorem Leads.location_eq (h : Leads fs follow links must here names pl) (hn : ∀ x ∈ names, x ≠ dot ∧ x ≠ dotDot)
    (hl : fs.Straight (names.reverse ++ here)) : pl.location = names.reverse ++ here := by
  have hnode : ∀ {name : Filename} {rest : List Filename} {here : Location} {node : Node},
      fs.Straight ((name :: rest).reverse ++ here) → fs.node? (name :: here) = some node → node.isLink = false := by
    intro name rest here node hl hm
    refine hl _ _ ⟨rest.reverse, ?_⟩ hm
    rw [List.reverse_cons, List.append_assoc]
    rfl
  induction h with
  | arrive _ => rfl
  | stay => exact absurd rfl (hn dot List.mem_cons_self).1
  | climb => exact absurd rfl (hn dotDot List.mem_cons_self).2
  | miss => rfl
  | enter _ _ _ _ _ ih =>
      rw [List.reverse_cons, List.append_assoc] at hl ⊢
      exact ih (fun x hx => hn x (List.mem_cons_of_mem _ hx)) hl
  | halt _ _ _ hm hlink =>
      rw [hnode hl hm] at hlink
      cases hlink
  | jump _ _ hm hc =>
      have := hnode hl hm
      rw [isLink_iff.2 ⟨_, hc⟩] at this
      cases this

theorem location_of_straight (hl : fs.Straight p.location) (hp : p.Normal) (h : fs.resolve cwd follow p.spelling = .ok pl) :
    pl.location = p.location := by
  obtain ⟨-, -, links, -, hway⟩ := resolve_eq_ok_iff.1 h
  rw [LexicalPath.steps_spelling hp, linkStart, LexicalPath.linkStart_spelling hp] at hway
  have hsame : p.names.reverse ++ [] = p.location := List.append_nil _
  rw [← hsame]
  refine hway.location_eq (fun x hx => ⟨(hp.plain x hx).ne_dot, (hp.plain x hx).ne_dotDot⟩) ?_
  rwa [hsame]

theorem location_of_resolve (hl : fs.LinkFree) (hp : p.Normal) (h : fs.resolve cwd follow p.spelling = .ok pl) :
    pl.location = p.location :=
  location_of_straight (hl.straight _) hp h

/-- A normal path that opens a directory opens the one that it spells. -/
theorem OpensAt.eq_location (h : fs.OpensAt cwd p d) (hl : fs.LinkFree) (hp : p.Normal) : d = p.location :=
  location_of_resolve hl hp h.1

/-! ### Changes -/

theorem Adds.linkFree (h : Adds fs fs' d name node now) (hl : fs.LinkFree) (hn : node.isLink = false) :
    fs'.LinkFree := by
  intro q n hq
  rcases h.of_node? hq with ⟨-, rfl⟩ | ⟨m, hm, hk⟩
  · exact hn
  · rw [hk.alike.isLink_eq, hl q m hm]

theorem Writes.linkFree (h : Writes fs fs' place node bytes now) (hl : fs.LinkFree) : fs'.LinkFree := by
  intro q n hq
  rw [h.node?_eq] at hq
  split_ifs at hq
  · rw [← Option.some.inj hq]
    rfl
  · exact hl q n hq

theorem Shrinks.linkFree (h : Shrinks fs fs') (hl : fs.LinkFree) : fs'.LinkFree := by
  intro q n hq
  obtain ⟨m, hm, hc, -⟩ := h q n hq
  have := hl q m hm
  unfold Node.isLink at this ⊢
  rwa [hc]

/-- What is left of a file has its bytes. -/
theorem Shrinks.bytesAt (h : Shrinks fs fs') (hb : fs'.bytesAt place = some bytes) : fs.bytesAt place = some bytes := by
  obtain ⟨n, hn, hcontent⟩ := bytesAt_eq_some_iff.1 hb
  obtain ⟨m, hm, hc, -⟩ := h place n hn
  exact bytesAt_eq_some_iff.2 ⟨m, hm, by rw [← hc, hcontent]⟩

theorem Moves.linkFree (h : Moves fs fs' source place node) (hl : fs.LinkFree) : fs'.LinkFree := by
  intro q n hq
  by_cases hplace : q = place
  · rw [hplace, h.node?_place] at hq
    rw [← Option.some.inj hq]
    exact hl _ _ h.found
  by_cases hsource : q = source
  · rw [hsource, h.node?_source (by rw [← hsource]; exact hplace)] at hq
    cases hq
  cases hm : fs.node? q with
  | none =>
      rw [h.vacant q hplace hm] at hq
      cases hq
  | some m =>
      obtain ⟨n', hn', hk⟩ := h.kept q m hplace hsource hm
      rw [hn'] at hq
      rw [← Option.some.inj hq, hk.alike.isLink_eq, hl q m hm]

/-- A file that is written at a normal path is at the place that the path spells. -/
theorem write_linkFree (hl : fs.LinkFree) (hp : p.Normal) (h : fs.write cwd p.spelling bytes now = .ok fs') :
    fs'.LinkFree ∧ fs'.bytesAt p.location = some bytes := by
  rcases write_ok h with ⟨d, name, hv, -, ha⟩ | ⟨place, node, hplace, hw⟩
  · rw [← location_of_resolve hl hp hv]
    exact ⟨ha.linkFree hl rfl, bytesAt_eq_some_iff.2 ⟨_, ha.node?_new, rfl⟩⟩
  · rw [← location_of_resolve hl hp hplace]
    refine ⟨hw.linkFree hl, bytesAt_eq_some_iff.2 ⟨{ node with content := .file bytes, modified := now }, ?_, rfl⟩⟩
    rw [hw.node?_eq, Place.location, if_pos rfl]

/-! ### Files that were moved -/

/-- A directory stays where a file is moved. -/
theorem Moves.directory (hm : Moves fs fs' source place node) (hf : node.isFile = true) (hn : fs.node? q = some n)
    (hdir : n.isDirectory = true) : ∃ n', fs'.node? q = some n' ∧ n.Alike n' := by
  have hne : q ≠ place := by
    rintro rfl
    have := hm.notDirectory
    rw [isDirectoryAt_of_node? hn, hdir] at this
    cases this
  have hne' : q ≠ source := by
    rintro rfl
    rw [hm.found, Option.some.injEq] at hn
    rw [hn, Node.isFile_of_isDirectory hdir] at hf
    cases hf
  obtain ⟨n', hn', hk⟩ := hm.kept q n hne hne' hn
  exact ⟨n', hn', hk.alike⟩

theorem isWritableAt_of_alike (h : ∀ n, fs.node? q = some n → ∃ n', fs'.node? q = some n' ∧ n.Alike n')
    (hw : fs.isWritableAt q = true) : fs'.isWritableAt q = true := by
  unfold isWritableAt at hw ⊢
  obtain ⟨n, hn, hwritable⟩ := (Option.any_eq_true _ _).1 hw
  obtain ⟨n', hn', ha⟩ := h n hn
  rwa [hn', Option.any_some, Node.writable, ha.1]

theorem mayRemoveAt_of_alike (h : ∀ n, fs.node? q.tail = some n → ∃ n', fs'.node? q.tail = some n' ∧ n.Alike n')
    (hm : fs.mayRemoveAt q = true) : fs'.mayRemoveAt q = true := by
  unfold mayRemoveAt at hm ⊢
  rw [Bool.and_eq_true] at hm ⊢
  obtain ⟨n, hn, hs⟩ := (Option.any_eq_true _ _).1 hm.2
  obtain ⟨n', hn', ha⟩ := h n hn
  exact ⟨isWritableAt_of_alike h hm.1, by rwa [isSearchable, hn', Option.any_some, Node.searchable, ha.1]⟩

/-- Without links, names that led to the place that a file was moved to lead to the file. -/
theorem Leads.of_moves {target : Place} (h : Leads fs follow links must here names target) (hl : fs.LinkFree)
    (hm : Moves fs fs' source target.location node) (hf : node.isFile = true) (hmust : must = false) :
    Leads fs' follow links must here names (.found target.location) := by
  have hlink : ∀ {P : Prop} {q : Location} {n : Node}, fs.node? q = some n → n.isLink = true → P := by
    intro P q n hn hlink
    rw [hl q n hn] at hlink
    cases hlink
  have hopen : ∀ {q d : Location}, Moves fs fs' source d node → fs.IsOpen q → fs'.IsOpen q :=
    fun hm ho => ho.of_alike fun _ hn hd => hm.directory hf hn hd
  have hend : ∀ {P : Prop}, must = true → P := by
    intro P h
    rw [hmust] at h
    cases h
  induction h with
  | arrive => exact .arrive hend
  | stay ho h ih => exact .stay (hopen hm ho) (ih hm hmust hend)
  | climb ho h ih => exact .climb (hopen hm ho) (ih hm hmust hend)
  | miss ho hn hv => exact .enter (hopen hm ho) hn hm.node?_place (Node.isLink_of_isFile hf) (.arrive hend)
  | @enter links must here name rest pl n ho hn hnode hnl h ih =>
      have hrest := ih hm hmust hend
      by_cases hplace : name :: here = pl.location
      · exact .enter (hopen hm ho) hn (by rw [hplace, hm.node?_place]) (Node.isLink_of_isFile hf) hrest
      by_cases hsource : name :: here = source
      · -- a way that goes on from the file ends there, which is its place after all
        have hfile : n.isFile = true := by
          rw [hsource, hm.found, Option.some.injEq] at hnode
          rwa [← hnode]
        cases h with
        | arrive => exact absurd rfl hplace
        | stay ho' | climb ho' | miss ho' | enter ho' | halt _ ho' | jump ho' =>
            have hdir := ho'.1
            rw [isDirectoryAt_of_node? hnode, Node.isDirectory_of_isFile hfile] at hdir
            cases hdir
      · obtain ⟨n', hn', hk⟩ := hm.kept _ n hplace hsource hnode
        exact .enter (hopen hm ho) hn hn' (by rw [hk.alike.isLink_eq, hnl]) hrest
  | halt _ _ _ hnode hnl => exact hlink hnode hnl
  | jump _ _ hnode hc => exact hlink hnode (isLink_iff.2 ⟨_, hc⟩)

/-- Without links, a path that a file was moved to leads to the file. -/
theorem resolve_of_moves {target : Place} (hl : fs.LinkFree) (ht : fs.resolve cwd false path = .ok target)
    (hm : Moves fs fs' source target.location node) (hf : node.isFile = true) (hs : endsInSlash path = false) :
    fs'.resolve cwd follow path = .ok (.found target.location) := by
  obtain ⟨he, hlen, k, hk, hway⟩ := resolve_eq_ok_iff.1 ht
  have hfound := hway.of_moves hl hm hf hs
  refine resolve_eq_ok_iff.2 ⟨he, hlen, k, hk, ?_⟩
  cases follow with
  | false => exact hfound
  | true => exact hfound.followed hm.node?_place (Node.isLink_of_isFile hf)

/-- Without links, the path of an entry that a file was moved to leads to the file. -/
theorem status_of_moves {target : Place} (hp : p.Normal) (hn : IsPlainName name) (hl : fs.LinkFree)
    (ht : fs.resolve cwd false (p.entry name).spelling = .ok target) (hm : Moves fs fs' source target.location node)
    (hf : node.isFile = true) : fs'.status cwd (p.entry name).spelling = .ok node :=
  status_eq_ok_iff.2 ⟨_, resolve_of_moves hl ht hm hf (Pathname.isEntryPath_entry hp hn).endsInSlash, hm.node?_place⟩

/-- Without links, names lead to an entry of the last name, there or not. -/
theorem Leads.exists_location {x : Filename} (h : Leads fs follow links must here names pl) (hl : fs.LinkFree)
    (hlast : names.getLast? = some x) (hdot : x ≠ dot) (hup : x ≠ dotDot) : ∃ d, pl.location = x :: d := by
  induction h with
  | arrive => cases hlast
  | @stay links must here rest pl ho h ih =>
      cases rest with
      | nil => exact absurd (Option.some.inj hlast).symm hdot
      | cons y ys => exact ih (by rwa [List.getLast?_cons_cons] at hlast)
  | @climb links must here rest pl ho h ih =>
      cases rest with
      | nil => exact absurd (Option.some.inj hlast).symm hup
      | cons y ys => exact ih (by rwa [List.getLast?_cons_cons] at hlast)
  | miss =>
      obtain rfl := Option.some.inj hlast
      exact ⟨_, rfl⟩
  | @enter links must here name rest pl n ho hn hnode hnl h ih =>
      cases rest with
      | nil =>
          cases h
          obtain rfl := Option.some.inj hlast
          exact ⟨_, rfl⟩
      | cons y ys => exact ih (by rwa [List.getLast?_cons_cons] at hlast)
  | halt =>
      obtain rfl := Option.some.inj hlast
      exact ⟨_, rfl⟩
  | jump _ _ hnode hc =>
      have := hl _ _ hnode
      rw [isLink_iff.2 ⟨_, hc⟩] at this
      cases this

end FileSystem

namespace Action

open FileSystem

variable {h h' : Host} {r : Except Failure Unit} {p : LexicalPath}

/-- The directories that are made on the way are all that is new. -/
theorem makePath_linkFree (hl : h.files.LinkFree) (ha : makePath p h = (r, h')) : h'.files.LinkFree := by
  refine (ensureDirectories_files (F := fun fs fs' => fs.LinkFree → fs'.LinkFree) (fun _ hl => hl)
    (fun a b hl => b (a hl)) (fun fs fs' inner _ hfs hl => ?_) ha).2 hl
  obtain ⟨parent, name, -, hadd⟩ := makeDirectory_ok hfs
  exact hadd.linkFree hl rfl

/-- The removal of a tree leaves nothing new, also if it ends halfway. -/
theorem within_removeTree (p : LexicalPath) : Within (Host.OnFiles Shrinks) (removeTree p) :=
  within_removeTree_of (Host.frame_onFiles shrinks_refl Shrinks.trans)
    (fun h _ _ => emptyDirectory_shrinks h.files.depthBound) fun _ _ hfs => removeDirectory_shrinks hfs

end Action

end RequirePath
