import RequirePath.Proofs.File.LinkFree
import RequirePath.Proofs.Walk

/-! Names that changes bring. A path leads to a missing name only if the name stands in it or in the target of a link, so
it is plain, and what is made or moved under it leaves all names of entries plain. -/

namespace RequirePath

namespace FileSystem

open Pathname (of_mem_steps)

variable {fs fs' : FileSystem} {follow must : Bool} {links : Nat} {cwd d q source here : Location} {path : Pathname}
variable {name : Filename} {names : List Filename} {pl : Place} {n node : Node} {now : Timestamp}

theorem Leads.isPlainName_of_vacant (h : Leads fs follow links must here names (.vacant d name))
    (hnames : ∀ x ∈ names, x ≠ [] ∧ slash ∉ x) : IsPlainName name := by
  obtain ⟨-, ⟨hdot, hup, -⟩, -⟩ := h.of_vacant
  suffices hname : name ≠ [] ∧ slash ∉ name from ⟨hname.1, hname.2, hdot, hup⟩
  generalize hp : Place.vacant d name = pl at h
  induction h with
  | arrive => cases hp
  | stay ho h ih => exact ih (fun x hx => hnames x (List.mem_cons_of_mem _ hx)) hp
  | climb ho h ih => exact ih (fun x hx => hnames x (List.mem_cons_of_mem _ hx)) hp
  | miss =>
      cases hp
      exact hnames _ List.mem_cons_self
  | enter ho hn hm hl h ih => exact ih (fun x hx => hnames x (List.mem_cons_of_mem _ hx)) hp
  | halt => cases hp
  | jump ho hn hm hl hs ht h ih =>
      refine ih (fun x hx => ?_) hp
      rcases List.mem_append.1 hx with hx | hx
      · exact of_mem_steps hx
      · exact hnames x (List.mem_cons_of_mem _ hx)

/-- Where all names are plain, a path with a name leads to a place with plain names, there or not. -/
theorem WellNamed.location (hn : fs.WellNamed) (h : fs.resolve cwd follow path = .ok pl) (hs : steps path ≠ []) :
    ∀ x ∈ pl.location, IsPlainName x := by
  obtain ⟨-, -, links, -, hway⟩ := resolve_eq_ok_iff.1 h
  cases pl with
  | vacant e name =>
      obtain ⟨m, hm, -⟩ := isDirectoryAt_iff.1 hway.of_vacant.1.1
      intro x hx
      rcases List.mem_cons.1 hx with rfl | hx
      · exact hway.isPlainName_of_vacant fun y hy => of_mem_steps hy
      · exact hn e m hm x hx
  | found q =>
      obtain ⟨y, ys, hnames⟩ := List.exists_cons_of_ne_nil hs
      rw [hnames] at hway
      obtain ⟨m, hm, -⟩ := isDirectoryAt_iff.1 hway.isOpen_of_cons.1
      obtain ⟨n, hnode⟩ := hway.exists_node ⟨m, hm⟩
      exact hn q n hnode

theorem WellNamed.adds (hn : fs.WellNamed) (h : fs.resolve cwd follow path = .ok (.vacant d name))
    (ha : Adds fs fs' d name node now) : fs'.WellNamed := by
  obtain ⟨-, -, links, -, hway⟩ := resolve_eq_ok_iff.1 h
  have hs : steps path ≠ [] := by
    intro hnil
    rw [hnil] at hway
    generalize endsInSlash path = must at hway
    cases hway
  intro q n hq
  rcases ha.of_node? hq with ⟨rfl, -⟩ | ⟨m, hm, -⟩
  · exact hn.location h hs
  · exact hn q m hm

theorem WellNamed.moves (hn : fs.WellNamed) (h : fs.resolve cwd follow path = .ok pl) (hs : steps path ≠ [])
    (hm : Moves fs fs' source pl.location node) : fs'.WellNamed := by
  intro q n hq
  by_cases hplace : q = pl.location
  · rw [hplace]
    exact hn.location h hs
  · cases hold : fs.node? q with
    | some m => exact hn q m hold
    | none =>
        rw [hm.vacant q hplace hold] at hq
        cases hq

end FileSystem

/-- The directories that are made on the way have plain names. -/
theorem Action.makePath_wellNamed {h h' : Host} {r : Except Failure Unit} {p : LexicalPath} (hn : h.files.WellNamed)
    (ha : makePath p h = (r, h')) : h'.files.WellNamed := by
  refine (ensureDirectories_files (F := fun fs fs' => fs.WellNamed → fs'.WellNamed) (fun _ hn => hn)
    (fun a b hn => b (a hn)) (fun fs fs' inner _ hfs hn => ?_) ha).2 hn
  obtain ⟨parent, name, hv, hadd⟩ := FileSystem.makeDirectory_ok hfs
  exact hn.adds hv hadd

end RequirePath
