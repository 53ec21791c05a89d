import RequirePath.Proofs.File.LinkFree

/-! Changes in one tree. Where no link is on the way to an entry of a directory, at it or below it, a path that spells a
place in its tree leads nowhere else. So what is made, written, moved and removed by such paths changes nothing outside
the tree but the time of the directory, and brings no link into it. -/

namespace RequirePath.FileSystem

variable {fs fs' fs'' : FileSystem} {follow : Bool} {cwd d e q place : Location} {name x : Filename}
variable {p old new : LexicalPath} {pl : Place} {n node : Node} {t now : Timestamp} {bytes : List UInt8}

/-- A directory, and no link on the way to its entry of the given name, at it or below it. -/
structure Secluded (fs : FileSystem) (d : Location) (name : Filename) : Prop where
  isDirectoryAt : fs.isDirectoryAt d = true
  straight : ∀ q, name :: d <:+ q → fs.Straight q

/-- All that changes is the tree of an entry and the time of the directory that the entry lies in, and no link is new in
the tree. -/
structure Confined (d : Location) (name : Filename) (fs fs' : FileSystem) : Prop where
  outside : ∀ q, ¬name :: d <:+ q → q ≠ d → fs'.node? q = fs.node? q
  directory : ∀ n, fs.node? d = some n → ∃ t, fs'.node? d = some { n with modified := t }
  linkless : (∀ q n, name :: d <:+ q → fs.node? q = some n → n.isLink = false) →
    ∀ q n, name :: d <:+ q → fs'.node? q = some n → n.isLink = false

theorem confined_refl (fs : FileSystem) : Confined d name fs fs :=
  ⟨fun _ _ _ => rfl, fun n hn => ⟨n.modified, hn⟩, fun hl => hl⟩

theorem Confined.trans (h : Confined d name fs fs') (h' : Confined d name fs' fs'') : Confined d name fs fs'' := by
  refine ⟨fun q hq hd => (h'.outside q hq hd).trans (h.outside q hq hd), fun n hn => ?_, fun hl => h'.linkless (h.linkless hl)⟩
  obtain ⟨t, hn'⟩ := h.directory n hn
  obtain ⟨t', hn''⟩ := h'.directory _ hn'
  exact ⟨t', hn''⟩

/-- What lies in the tree of an entry lies in the directory of the entry or in the tree. -/
theorem tail_of_suffix (h : name :: d <:+ place) : place.tail = d ∨ name :: d <:+ place.tail := by
  cases place with
  | nil => exact absurd (List.suffix_nil.1 h) (List.cons_ne_nil _ _)
  | cons x e =>
      rcases List.suffix_cons_iff.1 h with heq | hbelow
      · exact Or.inl (List.cons.inj heq).2.symm
      · exact Or.inr hbelow

theorem Secluded.confined (h : fs.Secluded d name) (hc : Confined d name fs fs') : fs'.Secluded d name := by
  have hold : ∀ q n, name :: d <:+ q → fs.node? q = some n → n.isLink = false := fun q n hq hn =>
    h.straight q hq q n (List.suffix_refl q) hn
  obtain ⟨m, hm, hdir⟩ := isDirectoryAt_iff.1 h.isDirectoryAt
  obtain ⟨t, hm'⟩ := hc.directory m hm
  refine ⟨isDirectoryAt_iff.2 ⟨_, hm', hdir⟩, fun q hq q' n' hq' hn' => ?_⟩
  by_cases hbelow : name :: d <:+ q'
  · exact hc.linkless hold q' n' hbelow hn'
  by_cases hd : q' = d
  · rw [hd, hm', Option.some.injEq] at hn'
    rw [← hn']
    exact h.straight _ (List.suffix_refl _) d m (List.suffix_cons _ _) hm
  · rw [hc.outside q' hbelow hd] at hn'
    exact h.straight q hq q' n' hq' hn'

/-! ### The basic changes -/

theorem confined_touch (hp : place = d ∨ name :: d <:+ place) : Confined d name fs (fs.touch place t) := by
  refine ⟨fun q hq hd => ?_, fun n hn => ?_, fun hl q n hq hn => ?_⟩
  · rw [node?_touch, if_neg]
    rintro rfl
    exact hp.elim hd hq
  · rw [node?_touch, hn]
    by_cases hplace : d = place
    · exact ⟨t, by rw [if_pos hplace]; rfl⟩
    · exact ⟨n.modified, by rw [if_neg hplace]⟩
  · rw [node?_touch] at hn
    split_ifs at hn
    · obtain ⟨m, hm, rfl⟩ := Option.map_eq_some_iff.1 hn
      exact hl q m hq hm
    · exact hl q n hq hn

theorem confined_touch_tail (hp : name :: d <:+ place) : Confined d name fs (fs.touch place.tail t) :=
  confined_touch (tail_of_suffix hp)

theorem confined_erase (hp : name :: d <:+ place) : Confined d name fs (fs.erase place) := by
  by_cases h : place ≠ [] ∧ fs.isBare place = true
  · have hne : ∀ q, ¬name :: d <:+ q → (fs.erase place).node? q = fs.node? q := by
      intro q hq
      rw [node?_erase h.1 h.2, if_neg]
      rintro rfl
      exact hq hp
    refine ⟨fun q hq _ => hne q hq, fun n hn => ⟨n.modified, (hne d not_suffix_tail).trans hn⟩, fun hl q n hq hn => ?_⟩
    rw [node?_erase h.1 h.2] at hn
    split_ifs at hn
    exact hl q n hq hn
  · rw [erase_eq_self h]
    exact confined_refl fs

theorem confined_put (hp : name :: d <:+ place) (hn : node.isLink = false) : Confined d name fs (fs.put place node) := by
  by_cases h : fs.admits place node = true
  · have hne : ∀ q, ¬name :: d <:+ q → (fs.put place node).node? q = fs.node? q := by
      intro q hq
      rw [node?_put h, if_neg]
      rintro rfl
      exact hq hp
    refine ⟨fun q hq _ => hne q hq, fun n hn => ⟨n.modified, (hne d not_suffix_tail).trans hn⟩, fun hl q m hq hm => ?_⟩
    rw [node?_put h] at hm
    split_ifs at hm
    · rwa [← Option.some.inj hm]
    · exact hl q m hq hm
  · rw [put, dif_neg h]
    exact confined_refl fs

/-! ### Changes by path -/

theorem Secluded.location_eq (hs : fs.Secluded d name) (hp : p.Normal) (hb : name :: d <:+ p.location)
    (h : fs.resolve cwd follow p.spelling = .ok pl) : pl.location = p.location :=
  location_of_straight (hs.straight _ hb) hp h

theorem create_confined (hb : name :: d <:+ x :: e) (hn : node.isLink = false)
    (h : fs.create e x node now = .ok fs') : Confined d name fs fs' := by
  unfold create at h
  split_ifs at h
  cases h
  exact (confined_put hb hn).trans (confined_touch_tail hb)

/-- A directory is made in the tree; those that the tree lies in are there. -/
theorem makeDirectory_confined (hs : fs.Secluded d name) (hp : p.Normal) (hb : name :: d <:+ p.location ∨ p.location <:+ d)
    (h : fs.makeDirectory cwd p.spelling now = .ok fs') : Confined d name fs fs' := by
  unfold makeDirectory at h
  split at h
  · cases h
  · cases h
  next e x hv =>
  rcases hb with hb | hb
  · have hplace : x :: e = p.location := hs.location_eq hp hb hv
    exact create_confined (hplace ▸ hb) rfl h
  · have hplace : x :: e = p.location :=
      location_of_straight ((hs.straight _ (List.suffix_refl _)).mono (hb.trans (List.suffix_cons _ _))) hp hv
    obtain ⟨-, -, k, -, hway⟩ := resolve_eq_ok_iff.1 hv
    obtain ⟨-, -, hvacant⟩ := hway.of_vacant
    have hdir := isDirectoryAt_of_suffix hs.isDirectoryAt hb
    rw [← hplace, isDirectoryAt_eq_false hvacant] at hdir
    cases hdir

theorem createPrivate_confined (hs : fs.Secluded d name) (hp : p.Normal) (hb : name :: d <:+ p.location)
    (h : fs.createPrivate cwd p.spelling bytes now = .ok fs') : Confined d name fs fs' := by
  unfold createPrivate at h
  split at h
  · cases h
  · cases h
  · next e x hv =>
      have hplace : x :: e = p.location := hs.location_eq hp hb hv
      exact create_confined (hplace ▸ hb) rfl h

theorem write_confined (hs : fs.Secluded d name) (hp : p.Normal) (hb : name :: d <:+ p.location)
    (h : fs.write cwd p.spelling bytes now = .ok fs') : Confined d name fs fs' := by
  unfold write writeWith at h
  split at h
  · cases h
  · next e x hv =>
      have hplace : x :: e = p.location := hs.location_eq hp hb hv
      split_ifs at h
      exact create_confined (hplace ▸ hb) rfl h
  · next place hfound =>
      obtain rfl : place = p.location := hs.location_eq hp hb hfound
      split at h
      · cases h
      · split_ifs at h
        split at h
        · cases h
          exact confined_put hb rfl
        · cases h

theorem removeFile_confined (hs : fs.Secluded d name) (hp : p.Normal) (hb : name :: d <:+ p.location)
    (h : fs.removeFile cwd p.spelling now = .ok fs') : Confined d name fs fs' := by
  obtain ⟨place, hfound, rfl⟩ := removeFile_ok h
  obtain rfl : place = p.location := hs.location_eq hp hb hfound
  exact (confined_erase hb).trans (confined_touch_tail hb)

theorem rename_confined (hs : fs.Secluded d name) (ho : old.Normal) (hbo : name :: d <:+ old.location) (hn : new.Normal)
    (hbn : name :: d <:+ new.location) (h : fs.rename cwd old.spelling new.spelling now = .ok fs') :
    Confined d name fs fs' := by
  rw [rename_eq] at h
  split at h
  · cases h
  next source hsource =>
  obtain rfl : source = old.location := hs.location_eq ho hbo (locate_eq_ok_iff.1 hsource)
  split at h
  · cases h
  next target htarget =>
  rw [hs.location_eq hn hbn htarget] at h
  split_ifs at h
  split at h
  · cases h
  next node hnode =>
  cases h
  have hlink : node.isLink = false := hs.straight _ hbo _ _ (List.suffix_refl _) hnode
  have hmoved : Confined d name fs ((fs.erase old.location).put new.location node) :=
    (confined_erase hbo).trans (confined_put hbn hlink)
  exact (hmoved.trans (confined_touch_tail hbo)).trans (confined_touch_tail hbn)

/-! ### Removal of trees -/

theorem removeEntry_confined (hb : name :: d <:+ e) : Confined d name fs (fs.removeEntry e x now).1 := by
  unfold removeEntry
  split_ifs
  · exact (confined_erase (hb.trans (List.suffix_cons _ _))).trans (confined_touch (Or.inr hb))
  · exact confined_refl fs

theorem emptyDirectory_confined (bound : Nat) (hb : name :: d <:+ e) :
    Confined d name fs (fs.emptyDirectory now bound e).1 :=
  emptyDirectory_of confined_refl Confined.trans (fun _ _ _ hbelow => removeEntry_confined hbelow) bound hb

theorem removeDirectory_confined (hs : fs.Secluded d name) (hp : p.Normal) (hb : name :: d <:+ p.location)
    (h : fs.removeDirectory cwd p.spelling now = .ok fs') : Confined d name fs fs' := by
  obtain ⟨place, hplace, -, -, -, -, rfl⟩ := removeDirectory_ok h
  obtain rfl : place = p.location := hs.location_eq hp hb hplace
  exact (confined_erase hb).trans (confined_touch_tail hb)

end RequirePath.FileSystem
