import RequirePath.Proofs.File.Changes

/-! A file that grows at its end. The first bytes make it where nothing is, in a directory that may be written; then the path
leads to it, and what is added later stands behind what it holds. -/

namespace RequirePath.FileSystem

variable {fs : FileSystem} {cwd here d : Location} {path : Pathname} {bytes : List UInt8} {now : Timestamp}
variable {name : Filename} {links : Nat} {must : Bool} {names : List Filename}

/-- A new file can be made at a path: nothing is there, and its directory may be written. -/
structure TakesNew (fs : FileSystem) (cwd : Location) (path : Pathname) : Prop where
  named : endsInSlash path = false
  vacant : ∃ d name, fs.resolve cwd false path = .ok (.vacant d name) ∧ fs.isWritableAt d = true

/-- A path leads to a file of some bytes, which may be read and written. -/
def HoldsOpen (fs : FileSystem) (cwd : Location) (path : Pathname) (bytes : List UInt8) : Prop :=
  ∃ place node, fs.resolve cwd true path = .ok (.found place) ∧ fs.node? place = some node ∧
    node.content = .file bytes ∧ node.readable = true ∧ node.writable = true

theorem HoldsOpen.read (h : fs.HoldsOpen cwd path bytes) : fs.read cwd path = .ok bytes := by
  obtain ⟨place, node, hp, hn, hc, hr, -⟩ := h
  exact read_eq_ok_iff.2 ⟨node, status_eq_ok_iff.2 ⟨place, hp, hn⟩, hr, hc⟩

/-- A way to a vacant place passes no last link, so following one makes no difference. -/
theorem Leads.follow_vacant (h : Leads fs false links must here names (.vacant d name)) :
    Leads fs true links must here names (.vacant d name) := by
  generalize hp : Place.vacant d name = p at h
  induction h with
  | arrive hd => cases hp
  | stay ho h ih => exact .stay ho (ih hp)
  | climb ho h ih => exact .climb ho (ih hp)
  | miss ho hn hv =>
      cases hp
      exact .miss ho hn hv
  | enter ho hn hm hl h ih => exact .enter ho hn hm hl (ih hp)
  | halt hf ho hn hm hl => cases hp
  | jump ho hn hm hl hs ht h ih => exact .jump ho hn hm hl (fun hrest => (hs hrest).imp_left nofun) ht (ih hp)

/-- Bytes that are added where nothing is make a file. -/
theorem TakesNew.append (h : fs.TakesNew cwd path) (bytes : List UInt8) (now : Timestamp) :
    ∃ fs', fs.append cwd path bytes now = .ok fs' ∧ fs'.HoldsOpen cwd path bytes := by
  obtain ⟨d, name, hvacant, hwritable⟩ := h.vacant
  obtain ⟨he, hlen, k, hk, hway⟩ := resolve_eq_ok_iff.1 hvacant
  have hfollowed : fs.resolve cwd true path = .ok (.vacant d name) :=
    resolve_eq_ok_iff.2 ⟨he, hlen, k, hk, hway.follow_vacant⟩
  obtain ⟨fs', hcreate⟩ : ∃ fs', fs.create d name (Node.newFile bytes now) now = .ok fs' := by
    unfold create
    rw [if_pos hwritable]
    exact ⟨_, rfl⟩
  have hadds := create_ok hvacant hcreate
  have hmode : (Node.fileMode / 256 % 2 == 1) = true ∧ (Node.fileMode / 128 % 2 == 1) = true := by decide
  refine ⟨fs', ?_, name :: d, Node.newFile bytes now, ?_, hadds.node?_new, rfl, hmode⟩
  · unfold FileSystem.append writeWith
    rw [hfollowed]
    dsimp only
    rw [h.named, if_neg Bool.false_ne_true]
    exact hcreate
  · have hfound := hway.fill h.named hadds.keeps.grows hadds.node?_new rfl
    exact resolve_eq_ok_iff.2 ⟨he, hlen, k, hk, hfound.followed hadds.node?_new rfl⟩

/-- Bytes that are added to a file stand behind those that it holds. -/
theorem HoldsOpen.append (h : fs.HoldsOpen cwd path bytes) (more : List UInt8) (now : Timestamp) :
    ∃ fs', fs.append cwd path more now = .ok fs' ∧ fs'.HoldsOpen cwd path (bytes ++ more) := by
  obtain ⟨place, node, hp, hn, hc, hr, hw⟩ := h
  have hfile : node.isFile = true := Node.isFile_iff.2 ⟨bytes, hc⟩
  -- so the change is the writing of all bytes
  have heq : fs.append cwd path more now = fs.write cwd path (bytes ++ more) now := by
    unfold FileSystem.append FileSystem.write writeWith
    rw [hp]
    dsimp only
    rw [hn]
    dsimp only
    rw [hc]
  obtain ⟨fs', hwrite⟩ := write_of_found (bytes ++ more) now hp hn hfile hw
  refine ⟨fs', heq.trans hwrite, ?_⟩
  rcases write_ok hwrite with ⟨d, name, hv, -, -⟩ | ⟨place', node', hp', hwrites⟩
  · cases hp.symm.trans hv
  · cases hp.symm.trans hp'
    cases hn.symm.trans hwrites.found
    have hnode := hwrites.node?_eq place
    rw [if_pos rfl] at hnode
    exact ⟨place, _, resolve_grow hwrites.grows hp, hnode, rfl, hr, hw⟩

end RequirePath.FileSystem
