import RequirePath.Proofs.File.Entry

/-! A new file that only its owner may see, from its making to its end: it is found at its path, it can be
written and removed, and it can be moved to its own path. Removing it leaves every other node as it was before
the file was made. -/

namespace RequirePath.FileSystem

variable {fs fs₁ fs₂ : FileSystem} {cwd d q : Location} {path : Pathname} {bytes : List UInt8} {name : Filename}
variable {p : LexicalPath} {node : Node} {now : Timestamp}

/-- A new file is at its path, whether links are followed or not. -/
theorem createPrivate_found (hs : endsInSlash path = false) (h : fs.createPrivate cwd path bytes now = .ok fs₁) :
    ∃ d name, fs.resolve cwd false path = .ok (.vacant d name) ∧
      Adds fs fs₁ d name ⟨.file bytes, Node.privateMode, now⟩ now ∧
      ∀ follow, fs₁.resolve cwd follow path = .ok (.found (name :: d)) := by
  obtain ⟨d, name, hv, ha⟩ := createPrivate_ok h
  refine ⟨d, name, hv, ha, fun follow => ?_⟩
  obtain ⟨he, hlen, k, hk, hway⟩ := resolve_eq_ok_iff.1 hv
  rw [hs] at hway
  have hlink : (⟨.file bytes, Node.privateMode, now⟩ : Node).isLink = false := rfl
  have hfound := hway.fill rfl ha.keeps.grows ha.node?_new hlink
  refine resolve_eq_ok_iff.2 ⟨he, hlen, k, hk, ?_⟩
  rw [hs]
  cases follow with
  | false => exact hfound
  | true => exact hfound.followed ha.node?_new hlink

theorem Adds.mayRemoveAt (h : Adds fs fs₁ d name node now) : fs₁.mayRemoveAt (name :: d) = true := by
  obtain ⟨n, hn, -⟩ := isDirectoryAt_iff.1 h.isOpen.1
  have hd : fs₁.node? d = some { n with modified := now } := by
    rw [h.node?_eq, if_neg (Ne.symm (List.cons_ne_self _ _)), if_pos rfl, hn]
    rfl
  have hw : n.writable = true := by simpa [FileSystem.isWritableAt, hn] using h.isWritableAt
  have hs : n.searchable = true := by simpa [isSearchable, hn] using h.isOpen.2
  simp only [FileSystem.mayRemoveAt, FileSystem.isWritableAt, isSearchable, List.tail_cons, hd, Option.any_some,
    Bool.and_eq_true]
  exact ⟨hw, hs⟩

/-- Writing a new file gives it the bytes, as if it had been made with them. -/
theorem Adds.write (h : Adds fs fs₁ d name ⟨.file bytes, Node.privateMode, now⟩ now)
    (hp : fs₁.resolve cwd true path = .ok (.found (name :: d))) (bytes' : List UInt8) :
    ∃ fs₂, fs₁.write cwd path bytes' now = .ok fs₂ ∧ Adds fs fs₂ d name ⟨.file bytes', Node.privateMode, now⟩ now := by
  obtain ⟨fs₂, hfs⟩ := write_of_found bytes' now hp h.node?_new rfl (by simp [Node.writable, Node.privateMode])
  refine ⟨fs₂, hfs, h.isOpen, h.isWritableAt, h.isEntryName, h.vacant, fun q => ?_⟩
  rcases write_ok hfs with ⟨parent, x, hv, -⟩ | ⟨place, n, hf, hw⟩
  · rw [hp] at hv
    cases hv
  · rw [hp] at hf
    cases hf
    have hn := hw.found
    rw [h.node?_new, Option.some.injEq] at hn
    rw [hw.node?_eq, h.node?_eq, ← hn]
    split_ifs <;> rfl

/-- Removing a new file succeeds, and then every other node is as before. -/
theorem Adds.removeFile (h : Adds fs fs₁ d name node now) (hfile : node.isFile = true)
    (hp : fs₁.resolve cwd false path = .ok (.found (name :: d))) :
    ∃ fs₂, fs₁.removeFile cwd path now = .ok fs₂ ∧ Keeps fs fs₂ ∧ ∀ q, q ≠ d → fs₂.node? q = fs.node? q := by
  have hdir : fs₁.isDirectoryAt (name :: d) = false := by
    rw [isDirectoryAt_of_node? h.node?_new, Node.isDirectory_of_isFile hfile]
  have hbare := isBare_of_not_isDirectoryAt hdir
  have hremove : fs₁.removeFile cwd path now = .ok ((fs₁.erase (name :: d)).touch d now) := by
    unfold FileSystem.removeFile
    rw [locate_eq_ok_iff.2 hp]
    simp [h.mayRemoveAt, hdir]
  refine ⟨_, hremove, fun q n hn => ?_, fun q hq => ?_⟩
  · obtain ⟨n', hn', hk⟩ := h.keeps q n hn
    have hne : q ≠ name :: d := by
      rintro rfl
      rw [h.vacant] at hn
      cases hn
    rw [node?_touch, node?_erase (List.cons_ne_nil _ _) hbare, if_neg hne, hn']
    by_cases hq : q = d
    · refine ⟨{ n' with modified := now }, by rw [if_pos hq]; rfl, hk.trans (Or.inr ⟨?_, now, rfl⟩)⟩
      rw [hk.alike.isDirectory_eq, ← isDirectoryAt_of_node? hn, hq]
      exact h.isOpen.1
    · exact ⟨n', by rw [if_neg hq], hk⟩
  · rw [node?_touch, if_neg hq, node?_erase (List.cons_ne_nil _ _) hbare, h.node?_eq, if_neg hq]
    by_cases hne : q = name :: d
    · rw [if_pos hne, hne, h.vacant]
    · rw [if_neg hne, if_neg hne]

/-- Moving a new file to its own path succeeds. -/
theorem Adds.rename_self (h : Adds fs fs₁ d name node now) (hfile : node.isFile = true)
    (hp : fs₁.resolve cwd false path = .ok (.found (name :: d))) (hl : lacksName path = false) :
    ∃ fs₂, fs₁.rename cwd path path now = .ok fs₂ := by
  have hdir : fs₁.isDirectoryAt (name :: d) = false := by
    rw [isDirectoryAt_of_node? h.node?_new, Node.isDirectory_of_isFile hfile]
  exact rename_of_found now hp h.node?_new h.mayRemoveAt hp hl not_suffix_tail h.mayRemoveAt hdir

theorem lacksName_entry (hp : p.Normal) (hn : IsPlainName name) : lacksName (p.entry name).spelling = false := by
  rw [lacksName, LexicalPath.steps_spelling (hp.entry hn)]
  simp [LexicalPath.entry, hn.ne_dot, hn.ne_dotDot]

end RequirePath.FileSystem
