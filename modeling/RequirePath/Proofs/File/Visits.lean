import RequirePath.Proofs.File.Confined

/-! The places that a path leads through, and what becomes of it when the tree at one of them is removed. A path that
leads around the tree leads where it did. A path that leads through it ends at the missing name, also if it would leave
the tree again through a double dot or a link. -/

namespace RequirePath

namespace FileSystem

variable {fs fs' : FileSystem} {links bound : Nat} {must : Bool} {cwd d q here place : Location} {names : List Filename}
variable {name x : Filename} {p : LexicalPath} {path : Pathname} {pl : Place} {n node : Node} {now : Timestamp}

/-- The lookup of names from a place, all links followed, comes to a place. -/
inductive Visits (fs : FileSystem) (place : Location) : Location → List Filename → Prop
  | here {names : List Filename} : Visits fs place place names
  | stay {here : Location} {rest : List Filename} (h : Visits fs place here rest) : Visits fs place here (dot :: rest)
  | climb {here : Location} {rest : List Filename} (h : Visits fs place here.tail rest) :
      Visits fs place here (dotDot :: rest)
  | enter {here : Location} {name : Filename} {rest : List Filename} {node : Node} (hn : IsEntryName name)
      (hm : fs.node? (name :: here) = some node) (hl : node.isLink = false) (h : Visits fs place (name :: here) rest) :
      Visits fs place here (name :: rest)
  | jump {here : Location} {name : Filename} {rest : List Filename} {node : Node} {target : Pathname}
      (hn : IsEntryName name) (hm : fs.node? (name :: here) = some node) (hl : node.content = .link target)
      (h : Visits fs place (linkStart here target) (steps target ++ rest)) : Visits fs place here (name :: rest)

/-- A path leads through a place. -/
def LeadsThrough (fs : FileSystem) (cwd : Location) (path : Pathname) (place : Location) : Prop :=
  Visits fs place (linkStart cwd path) (steps path)

/-- Without links, a normal path leads through the places above the one that it spells, and that one. -/
theorem suffix_of_visits (hv : Visits fs place here names) (hn : ∀ x ∈ names, x ≠ dot ∧ x ≠ dotDot)
    (hl : fs.Straight (names.reverse ++ here)) : place <:+ names.reverse ++ here := by
  induction hv with
  | here => exact List.suffix_append _ _
  | stay => exact absurd rfl (hn dot List.mem_cons_self).1
  | climb => exact absurd rfl (hn dotDot List.mem_cons_self).2
  | enter _ _ _ _ ih =>
      rw [List.reverse_cons, List.append_assoc] at hl ⊢
      exact ih (fun x hx => hn x (List.mem_cons_of_mem _ hx)) hl
  | @jump here name rest node target _ hm hc _ _ =>
      have hlink : node.isLink = false := by
        refine hl _ _ ⟨rest.reverse, ?_⟩ hm
        rw [List.reverse_cons, List.append_assoc]
        rfl
      rw [isLink_iff.2 ⟨_, hc⟩] at hlink
      cases hlink

theorem LeadsThrough.suffix (h : fs.LeadsThrough cwd p.spelling place) (hp : p.Normal) (hl : fs.Straight p.location) :
    place <:+ p.location := by
  rw [LeadsThrough, LexicalPath.steps_spelling hp, linkStart, LexicalPath.linkStart_spelling hp] at h
  have hsame : p.names.reverse ++ [] = p.location := List.append_nil _
  rw [← hsame] at hl ⊢
  exact suffix_of_visits h (fun x hx => ⟨(hp.plain x hx).ne_dot, (hp.plain x hx).ne_dotDot⟩) hl

/-! ### Without a tree -/

/-- The tree of an entry is removed, and nothing else but the time of the directory that it was in has changed. -/
structure Removes (fs fs' : FileSystem) (d : Location) (name : Filename) : Prop where
  isDirectoryAt : fs.isDirectoryAt (name :: d) = true
  gone : ∀ q, name :: d <:+ q → fs'.node? q = none
  confined : Confined d name fs fs'

theorem Removes.kept (hr : Removes fs fs' d name) (hq : ¬name :: d <:+ q) (hn : fs.node? q = some n) :
    ∃ t, fs'.node? q = some { n with modified := t } := by
  by_cases hd : q = d
  · subst hd
    exact hr.confined.directory n hn
  · exact ⟨n.modified, (hr.confined.outside q hq hd).trans hn⟩

theorem Removes.isOpen (hr : Removes fs fs' d name) (hq : ¬name :: d <:+ q) (ho : fs.IsOpen q) : fs'.IsOpen q := by
  refine ho.of_alike fun n hn _ => ?_
  obtain ⟨t, hn'⟩ := hr.kept hq hn
  exact ⟨_, hn', rfl, Or.inl rfl⟩

/-- No link is the top of the tree, so a lookup comes into the tree by a name only. -/
theorem Removes.outside_link {target : Pathname} (hr : Removes fs fs' d name) (hh : ¬name :: d <:+ here)
    (hm : fs.node? (x :: here) = some node) (hl : node.content = .link target) : ¬name :: d <:+ x :: here := by
  intro hbelow
  rcases List.suffix_cons_iff.1 hbelow with heq | hbelow
  · have hlink := isLink_eq_false_of_isDirectoryAt hr.isDirectoryAt (heq ▸ hm)
    rw [isLink_iff.2 ⟨_, hl⟩] at hlink
    cases hlink
  · exact hh hbelow

theorem not_suffix_linkStart (hh : ¬name :: d <:+ here) (target : Pathname) : ¬name :: d <:+ linkStart here target := by
  unfold linkStart
  split_ifs
  · exact fun h => List.cons_ne_nil _ _ (List.suffix_nil.1 h)
  · exact hh

/-- A lookup of an absolute path starts at the root, outside of every tree that is removed. -/
theorem not_suffix_linkStart_spelling (hp : p.Tidy) : ¬name :: d <:+ linkStart cwd p.spelling := by
  rw [linkStart, if_pos hp.isAbsolute_spelling]
  exact fun h => List.cons_ne_nil _ _ (List.suffix_nil.1 h)

/-- A way around the tree stays. -/
theorem Leads.around (h : Leads fs true links must here names (.found q)) (hr : Removes fs fs' d name)
    (hv : ¬Visits fs (name :: d) here names) (hh : ¬name :: d <:+ here) :
    Leads fs' true links must here names (.found q) ∧ ¬name :: d <:+ q := by
  generalize hp : Place.found q = pl at h
  induction h with
  | @arrive must here hd =>
      cases hp
      refine ⟨.arrive fun hm => ?_, hh⟩
      obtain ⟨n, hn, hdir⟩ := isDirectoryAt_iff.1 (hd hm)
      obtain ⟨t, hn'⟩ := hr.kept hh hn
      exact isDirectoryAt_iff.2 ⟨_, hn', hdir⟩
  | stay ho h ih =>
      obtain ⟨hway, hq⟩ := ih (fun hv' => hv (.stay hv')) hh hp
      exact ⟨.stay (hr.isOpen hh ho) hway, hq⟩
  | climb ho h ih =>
      obtain ⟨hway, hq⟩ := ih (fun hv' => hv (.climb hv')) (fun hb => hh (hb.trans (List.tail_suffix _))) hp
      exact ⟨.climb (hr.isOpen hh ho) hway, hq⟩
  | miss ho hn hvacant => cases hp
  | @enter links must here x rest p node ho hn hm hl h ih =>
      have hnext : ¬name :: d <:+ x :: here := by
        intro hbelow
        rcases List.suffix_cons_iff.1 hbelow with heq | hbelow
        · exact hv (.enter hn hm hl (heq ▸ .here))
        · exact hh hbelow
      obtain ⟨t, hm'⟩ := hr.kept hnext hm
      obtain ⟨hway, hq⟩ := ih (fun hv' => hv (.enter hn hm hl hv')) hnext hp
      exact ⟨.enter (hr.isOpen hh ho) hn hm' hl hway, hq⟩
  | halt hf => cases hf
  | jump ho hn hm hl hs ht h ih =>
      obtain ⟨t, hm'⟩ := hr.kept (hr.outside_link hh hm hl) hm
      obtain ⟨hway, hq⟩ := ih (fun hv' => hv (.jump hn hm hl hv')) (not_suffix_linkStart hh _) hp
      exact ⟨.jump (hr.isOpen hh ho) hn hm' hl hs ht hway, hq⟩

/-- A way through the tree ends at its missing name. -/
theorem resolveFrom_of_visits (h : Leads fs true links must here names (.found q)) (hr : Removes fs fs' d name)
    (hv : Visits fs (name :: d) here names) (hh : ¬name :: d <:+ here) (hq : q ≠ name :: d) (hb : links ≤ bound) :
    resolveFrom fs' true bound must here names = .error .noEntry := by
  generalize hp : Place.found q = pl at h
  induction h generalizing bound with
  | arrive hd =>
      cases hv
      exact absurd (List.suffix_refl _) hh
  | stay ho h ih =>
      have ho' := hr.isOpen hh ho
      rw [resolveFrom_cons, ho'.1, ho'.2]
      refine ih ?_ hh hb hp
      cases hv with
      | here => exact absurd (List.suffix_refl _) hh
      | stay hv => exact hv
      | enter hn | jump hn => exact absurd rfl hn.1
  | climb ho h ih =>
      have ho' := hr.isOpen hh ho
      rw [resolveFrom_cons, ho'.1, ho'.2]
      refine ih ?_ (fun hb => hh (hb.trans (List.tail_suffix _))) hb hp
      cases hv with
      | here => exact absurd (List.suffix_refl _) hh
      | climb hv => exact hv
      | enter hn | jump hn => exact absurd rfl hn.2.1
  | miss ho hn hvacant => cases hp
  | @enter links must here x rest p node ho hn hm hl h ih =>
      have ho' := hr.isOpen hh ho
      by_cases hnext : name :: d <:+ x :: here
      · -- the way comes into the tree here, and it does not end at the top
        have heq : name :: d = x :: here := (List.suffix_cons_iff.1 hnext).resolve_right hh
        rw [resolveFrom_entry ho' hn, hr.gone _ hnext]
        cases rest with
        | nil =>
            cases h
            cases hp
            exact absurd heq.symm hq
        | cons y ys => rfl
      · obtain ⟨t, hm'⟩ := hr.kept hnext hm
        rw [resolveFrom_enter ho' hn hm' hl]
        refine ih ?_ hnext hb hp
        cases hv with
        | here => exact absurd (List.suffix_refl _) hh
        | stay => exact absurd rfl hn.1
        | climb => exact absurd rfl hn.2.1
        | enter _ _ _ hv => exact hv
        | jump _ hm'' hc =>
            rw [hm, Option.some.injEq] at hm''
            rw [← hm''] at hc
            rw [isLink_iff.2 ⟨_, hc⟩] at hl
            cases hl
  | halt hf => cases hf
  | @jump links must here x rest p node target ho hn hm hl hs ht h ih =>
      obtain ⟨bound, rfl⟩ : ∃ m, bound = m + 1 := ⟨bound - 1, by omega⟩
      have ho' := hr.isOpen hh ho
      obtain ⟨t, hm'⟩ := hr.kept (hr.outside_link hh hm hl) hm
      have hgo : (rest.isEmpty && !true && !must) = false := by simp
      rw [resolveFrom_link ho' hn hm' hl, hgo, if_neg (by decide), followLink, if_neg (by simpa using ht)]
      refine ih ?_ (not_suffix_linkStart hh _) (by omega) hp
      cases hv with
      | here => exact absurd (List.suffix_refl _) hh
      | stay => exact absurd rfl hn.1
      | climb => exact absurd rfl hn.2.1
      | enter _ hm'' hl' =>
          rw [hm, Option.some.injEq] at hm''
          rw [← hm'', isLink_iff.2 ⟨_, hl⟩] at hl'
          cases hl'
      | jump _ hm'' hc hv =>
          rw [hm, Option.some.injEq] at hm''
          rw [← hm'', hl, Content.link.injEq] at hc
          subst hc
          exact hv

/-- A path around the tree leads to the same node, but for its time. -/
theorem Removes.status_around (hr : Removes fs fs' d name) (hs : fs.status cwd path = .ok n)
    (hv : ¬fs.LeadsThrough cwd path (name :: d)) (hh : ¬name :: d <:+ linkStart cwd path) :
    ∃ t, fs'.status cwd path = .ok { n with modified := t } := by
  obtain ⟨q, hq, hn⟩ := status_eq_ok_iff.1 hs
  obtain ⟨hne, hlen, links, hk, hway⟩ := resolve_eq_ok_iff.1 hq
  obtain ⟨hway', hout⟩ := hway.around hr hv hh
  obtain ⟨t, hn'⟩ := hr.kept hout hn
  exact ⟨t, status_eq_ok_iff.2 ⟨q, resolve_eq_ok_iff.2 ⟨hne, hlen, links, hk, hway'⟩, hn'⟩⟩

/-- A path through the tree, to something that is no directory, leads nowhere. -/
theorem Removes.status_through (hr : Removes fs fs' d name) (hs : fs.status cwd path = .ok n) (hdir : n.isDirectory = false)
    (hv : fs.LeadsThrough cwd path (name :: d)) (hh : ¬name :: d <:+ linkStart cwd path) :
    fs'.status cwd path = .error .noEntry := by
  obtain ⟨q, hq, hn⟩ := status_eq_ok_iff.1 hs
  obtain ⟨hne, hlen, links, hk, hway⟩ := resolve_eq_ok_iff.1 hq
  have hqd : q ≠ name :: d := by
    rintro rfl
    have := hr.isDirectoryAt
    rw [isDirectoryAt_of_node? hn, hdir] at this
    cases this
  have hend : fs'.resolve cwd true path = .error .noEntry := by
    unfold resolve
    rw [if_neg (by simpa using hne), if_neg (by omega)]
    exact resolveFrom_of_visits hway hr hv hh hqd hk
  rw [status, locate, hend]

/-! ### Removing a tree -/

/-- A directory that is emptied and removed takes its tree along. -/
theorem removes_of_removeDirectory {fs₁ : FileSystem} (hp : p.Tidy)
    (hplace : fs.resolve cwd false p.spelling = .ok (.found place)) (hf : Shrinks fs fs₁)
    (hc : ∀ name d, place = name :: d → Confined d name fs fs₁)
    (h : fs₁.removeDirectory cwd p.spelling now = .ok fs') : ∃ name d, place = name :: d ∧ Removes fs fs' d name := by
  obtain ⟨place₁, hplace₁, hsteps, hup, hdir, hbare, rfl⟩ := removeDirectory_ok h
  -- what the path leads to after the emptying, it led to before
  obtain rfl : place = place₁ := by
    have hsame := hplace.symm.trans (resolve_grow hf.grows hplace₁)
    cases hsame
    rfl
  rw [hp.steps_spelling] at hsteps hup
  obtain ⟨-, -, links, -, hway⟩ := resolve_eq_ok_iff.1 hplace
  rw [hp.steps_spelling] at hway
  have hlast := List.getLast?_eq_some_getLast hsteps
  have hdot := (hp.names _ (List.getLast_mem hsteps)).2.2
  obtain ⟨name, d, rfl⟩ := hway.exists_entry (hp.endsInSlash_spelling hsteps) hlast hdot fun he => hup (by rw [hlast, he])
  refine ⟨name, d, rfl, hf.grows.isDirectoryAt hdir, fun q hq => ?_, ?_⟩
  · have hqd : q ≠ d := fun he => not_suffix_tail (he ▸ hq)
    rw [node?_touch, List.tail_cons, if_neg hqd, node?_erase (List.cons_ne_nil _ _) hbare]
    split_ifs with heq
    · rfl
    · exact node?_below_bare hbare hq heq
  · exact ((hc name d rfl).trans (confined_erase (List.suffix_refl _))).trans (confined_touch_tail (List.suffix_refl _))

end FileSystem

namespace Action

open FileSystem

variable {h h' : Host} {p : LexicalPath}

/-- A removal that succeeds removes the tree of the entry that the path leads to. -/
theorem removeTree_ok (hp : p.Tidy) (ha : removeTree p h = (.ok (), h')) :
    ∃ name d, h.files.locate h.workingDirectory false p.spelling = .ok (name :: d) ∧ Removes h.files h'.files d name := by
  unfold removeTree at ha
  dsimp only at ha
  split at ha
  · cases ha
  · cases ha
  next place node hplace _ =>
  split_ifs at ha
  · cases ha
  · cases ha
  · cases ha
  split at ha
  · cases ha
  next fs hempty =>
  obtain ⟨-, fs', hremove, rfl⟩ := changeFiles_ok ha
  have hfs : (h.files.emptyDirectory h.now h.files.depthBound place).1 = fs := by rw [hempty]
  obtain ⟨name, d, rfl, hr⟩ := removes_of_removeDirectory hp (locate_eq_ok_iff.1 hplace)
    (hfs ▸ emptyDirectory_shrinks h.files.depthBound)
    (fun name d hplace => by rw [← hfs, hplace]; exact emptyDirectory_confined _ (List.suffix_refl _)) hremove
  exact ⟨name, d, hplace, hr⟩

end Action

end RequirePath
